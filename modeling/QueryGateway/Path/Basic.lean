import QueryGateway.Text.Split
import QueryGateway.Json.Printer

/-!
# Path expressions

An expression lists alternatives separated by commas. Each alternative is a
chain of segments separated by dots; a segment is a map key or `_` for the
current node, optionally followed by a list index in brackets. The value of an
expression is the first alternative that leads to a node that is not empty.
Indexing a node that is no list, or beyond its end, is a failure.
-/

namespace QueryGateway.Path

/-- The types that the text of a node can be read as. -/
inductive Target where
  | int
  | long
  | bool
  | float
  | double
  deriving DecidableEq, Repr

/-- The name of a target type. -/
def Target.name : Target → String
  | int => "int"
  | long => "long"
  | bool => "bool"
  | float => "float"
  | double => "double"

/-- Why an expression has no value. -/
inductive Failure where
  | notAList (segment : String) (found : Tree.Kind)
  | outOfRange (index size : Nat)
  | unreadable (value : String) (target : Target)
  deriving DecidableEq, Repr

/-- The text of a failure. -/
def Failure.message : Failure → String
  | notAList segment found => s!"{segment} is not array ({found.name})"
  | outOfRange index size => s!"index {index} out of range {size}"
  | unreadable value target => s!"cannot parse '{value}' as {target.name}"

/-- The name that stands for the current node. -/
def currentNode : String := "_"

/-- One segment of a chain: a key and an index into the list under it. -/
structure Segment where
  name : String
  index : Option Nat
  deriving DecidableEq, Repr

/-- The bound of list indexes; larger numbers are no index. -/
def indexLimit : Nat := 2 ^ 64

/-- The index written at the start of a text as digits in brackets. What follows
the closing bracket is ignored. -/
def readIndex? : List Char → Option Nat
  | '[' :: rest => do
    let (digits, _) ← Text.cut ']' rest
    let n ← Number.readNat? digits
    if n < indexLimit then some n else none
  | _ => none

/-- The segment that a text denotes. The name reaches to the first bracket and
may not be empty; a malformed index is ignored. -/
def Segment.read? (raw : List Char) : Option Segment :=
  let name := raw.takeWhile (· != '[')
  if name.isEmpty then none
  else some ⟨String.ofList name, readIndex? (raw.drop name.length)⟩

/-- The node that the name of a segment leads to. -/
def Segment.child? (s : Segment) (t : Tree) : Option Tree :=
  if s.name == currentNode then some t else t.field? s.name

/-- The node under a list index. -/
def Segment.select (s : Segment) (node : Tree) : Except Failure Tree :=
  match s.index with
  | none => .ok node
  | some i =>
    match node with
    | .list items =>
      match items[i]? with
      | some item => .ok item
      | none => .error (.outOfRange i items.length)
    | other => .error (.notAList s.name other.kind)

/-- The node at the end of a chain of segments. A null node, a malformed segment
or a missing key ends the chain without a node. -/
def walk : Tree → List (List Char) → Except Failure (Option Tree)
  | t, [] => .ok (some t)
  | t, raw :: rest =>
    match t with
    | .null => .ok none
    | t =>
      match Segment.read? raw with
      | none => .ok none
      | some s =>
        match s.child? t with
        | none => .ok none
        | some node =>
          match s.select node with
          | .error e => .error e
          | .ok next => walk next rest

/-- A node, unless it is empty. -/
def nonEmpty (t : Tree) : Option Tree :=
  if t.isEmpty then none else some t

/-- The value of one alternative. -/
def resolve (t : Tree) (alternative : List Char) : Except Failure (Option Tree) :=
  if alternative.isEmpty then .ok none
  else
    match walk t (Text.splitAt '.' alternative) with
    | .error e => .error e
    | .ok node => .ok (node.bind nonEmpty)

/-- The first value among alternatives. A failure ends the search. -/
def firstValue (t : Tree) : List (List Char) → Except Failure (Option Tree)
  | [] => .ok none
  | alternative :: rest =>
    match resolve t (Text.trim alternative) with
    | .error e => .error e
    | .ok (some v) => .ok (some v)
    | .ok none => firstValue t rest

/-- The alternatives of an expression. -/
def alternatives (expr : String) : List (List Char) :=
  Text.splitAt ',' expr.toList

/-- The node that an expression denotes in a tree, or nothing when it is absent. -/
def get (t : Tree) (expr : String) : Except Failure (Option Tree) :=
  firstValue t (alternatives expr)

/-- The number of items of the list at an expression; absent lists have none. -/
def size (t : Tree) (expr : String) : Except Failure Nat := do
  match ← get t expr with
  | none => .ok 0
  | some (.list items) => .ok items.length
  | some other => .error (.notAList expr other.kind)

end QueryGateway.Path
