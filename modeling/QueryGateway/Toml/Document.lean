import QueryGateway.Toml.Value

/-!
# TOML documents

A document is a sequence of lines: blank lines, comments, headers of tables and
of items of lists of tables, and pairs of keys and values. A header opens the
table that the following pairs belong to.
-/

namespace QueryGateway.Toml

/-- The document read so far: the finished tables, and the open table with the
header that opened it. The open table belongs to the root while `header` is empty. -/
structure Document where
  root : Table := {}
  current : Table := {}
  header : List String := []
  isItem : Bool := false

namespace Document

/-- The document with its open table put in place. -/
def close (d : Document) : Option Table :=
  match d.header.getLast? with
  | none => some d.current
  | some key =>
    Table.update false (fun parent =>
      match parent.get? key, d.isItem with
      | none, false => some (parent.push key d.current.toNode)
      | some (.tables items), true =>
        some (parent.replace key (.tables (items ++ [d.current.entries])))
      | _, _ => none) d.header.dropLast d.root

/-- Opens the table with the given name. A table that was only implied by
headers is taken up again; any other entry of that name is a conflict. -/
def openTable (d : Document) (path : List String) : Option Document := do
  let root ← d.close
  let key := path.getLastD ""
  let (entries, root) ← Table.visit false (fun parent =>
    match parent.get? key with
    | none => some ([], parent)
    | some (.table true false entries) => some (entries, parent.erase key)
    | some _ => none) path.dropLast root
  some { root, current := { entries }, header := path }

/-- Opens a new item of the list of tables with the given name. -/
def openItem (d : Document) (path : List String) : Option Document := do
  let root ← d.close
  let key := path.getLastD ""
  let root ← Table.update false (fun parent =>
    match parent.get? key with
    | none => some (parent.push key (.tables []))
    | some (.tables _) => some parent
    | some _ => none) path.dropLast root
  some { root, header := path, isItem := true }

/-- Adds a pair to the open table. -/
def insert (d : Document) (keys : List String) (value : Tree) : Option Document := do
  let current ← d.current.insert keys.dropLast (keys.getLastD "") value
  some { d with current }

/-- Reads a header line, whose first bracket has been read. -/
def readHeader (d : Document) (s : List Char) : Option (Document × List Char) :=
  match s with
  | '[' :: rest => do
    let (path, rest) ← readKey? rest
    let rest ← finishLine? (← expect? ']' (← expect? ']' rest))
    some (← d.openItem path, rest)
  | rest => do
    let (path, rest) ← readKey? rest
    let rest ← finishLine? (← expect? ']' rest)
    some (← d.openTable path, rest)

/-- Reads the line of a pair. -/
def readPair (d : Document) (s : List Char) : Option (Document × List Char) := do
  let (keys, rest) ← readKey? s
  let rest := skipBlanks (← expect? '=' rest)
  let (value, rest) ← readValue? (2 * rest.length + 2) depthLimit rest
  let rest ← finishLine? rest
  some (← d.insert keys value, rest)

/-- Reads all lines. The fuel bounds their number. -/
def readLines (d : Document) : Nat → List Char → Option Document
  | 0, _ => none
  | fuel + 1, s =>
    match skipBlanks s with
    | [] => some d
    | '[' :: rest => do
      let (d, rest) ← d.readHeader rest
      d.readLines fuel rest
    | rest =>
      match rest.head? == some '#', readLineEnd? rest with
      | true, _ => do d.readLines fuel (← finishLine? rest)
      | false, some rest => d.readLines fuel rest
      | false, none => do
        let (d, rest) ← d.readPair rest
        d.readLines fuel rest

end Document

/-- The tree that a document denotes. A byte order mark at its start is ignored. -/
def read? (text : String) : Option Tree := do
  let s := match text.toList with
    | '\uFEFF' :: rest => rest
    | s => s
  let d ← ({} : Document).readLines (s.length + 1) s
  let root ← d.close
  some root.toTree

end QueryGateway.Toml
