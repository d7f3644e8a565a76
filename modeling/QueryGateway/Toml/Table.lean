import QueryGateway.Tree.Basic

/-!
# Tables under construction

While a document is read, a table remembers whether it was only implied by
longer names and whether it came from dotted keys. These marks decide which
later headers and keys may extend it.
-/

namespace QueryGateway.Toml

/-- An entry of a table: a finished value, a table, or a list of tables. -/
inductive Node where
  | value (t : Tree)
  | table (isImplied isDotted : Bool) (entries : List (String × Node))
  | tables (items : List (List (String × Node)))

/-- A table with its marks. -/
structure Table where
  isImplied : Bool := false
  isDotted : Bool := false
  entries : List (String × Node) := []

namespace Table

/-- The entry of a key. -/
def get? (t : Table) (key : String) : Option Node :=
  t.entries.lookup key

/-- The table with a new entry. -/
def push (t : Table) (key : String) (n : Node) : Table :=
  { t with entries := t.entries ++ [(key, n)] }

/-- The table without a key. -/
def erase (t : Table) (key : String) : Table :=
  { t with entries := t.entries.filter (·.1 != key) }

/-- The table with the entry of a key replaced. -/
def replace (t : Table) (key : String) (n : Node) : Table :=
  { t with entries := t.entries.map fun (k, m) => if k == key then (k, n) else (k, m) }

/-- A table as an entry. -/
def toNode (t : Table) : Node :=
  .table t.isImplied t.isDotted t.entries

/-- Changes the table at the end of a chain of keys and answers what the change
does. Missing tables are implied; a list of tables is entered at its last item;
dotted keys enter only tables that were implied. -/
def visit {α : Type} (dotted : Bool) (change : Table → Option (α × Table)) :
    List String → Table → Option (α × Table)
  | [], t => change t
  | key :: rest, t =>
    match t.get? key with
    | none => do
      let (a, sub) ← visit dotted change rest { isImplied := true, isDotted := dotted }
      some (a, t.push key sub.toNode)
    | some (.value _) => none
    | some (.tables items) =>
      match items.reverse with
      | [] => none
      | last :: earlier => do
        let (a, sub) ← visit dotted change rest { entries := last }
        some (a, t.replace key (.tables (sub.entries :: earlier).reverse))
    | some (.table isImplied isDotted entries) =>
      if dotted && !isImplied then none
      else do
        let (a, sub) ← visit dotted change rest ⟨isImplied, isDotted, entries⟩
        some (a, t.replace key sub.toNode)

/-- Changes the table at the end of a chain of keys. -/
def update (dotted : Bool) (change : Table → Option Table) (path : List String) (t : Table) :
    Option Table :=
  (visit dotted (fun inner => (change inner).map ((), ·)) path t).map (·.2)

/-- Adds a value under a dotted key. The key may not exist yet, and dotted keys
do not mix with tables that were implied by headers. -/
def insert (t : Table) (path : List String) (key : String) (value : Tree) : Option Table :=
  update true (fun inner =>
    if inner.isDotted == path.isEmpty then none
    else
      match inner.get? key with
      | some _ => none
      | none => some (inner.push key (.value value))) path t

end Table

mutual

/-- The tree of an entry. -/
def Node.toTree : Node → Tree
  | .value t => t
  | .table _ _ entries => .map (Fields.ofList (entryTrees entries))
  | .tables items => .list (itemTrees items)

/-- The trees of the entries of a table. -/
def entryTrees : List (String × Node) → List (String × Tree)
  | [] => []
  | (key, n) :: rest => (key, n.toTree) :: entryTrees rest

/-- The trees of a list of tables. -/
def itemTrees : List (List (String × Node)) → List Tree
  | [] => []
  | entries :: rest => .map (Fields.ofList (entryTrees entries)) :: itemTrees rest

end

/-- The tree of a table. -/
def Table.toTree (t : Table) : Tree :=
  t.toNode.toTree

end QueryGateway.Toml
