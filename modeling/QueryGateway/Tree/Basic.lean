import QueryGateway.Number.Text

/-!
# Value trees

Configurations and request values are trees of scalars, lists and maps. The
fields of a map are kept in ascending order of their keys, and each key occurs
once. Null, the empty text, the empty list and the empty map are empty.
-/

namespace QueryGateway

/-- A value tree. Integers are those that were written as integers of 64 bits. -/
inductive Tree where
  | null
  | bool (b : Bool)
  | int (n : Int)
  | real (x : Binary64)
  | text (s : String)
  | list (items : List Tree)
  | map (fields : List (String × Tree))
  deriving Repr

/-- The fields of a map, in ascending order of their keys. -/
abbrev Fields := List (String × Tree)

namespace Fields

/-- Sets a key to a value, in its place in the order. -/
def insert (key : String) (value : Tree) : Fields → Fields
  | [] => [(key, value)]
  | (k, v) :: rest =>
    if key < k then (key, value) :: (k, v) :: rest
    else if key == k then (key, value) :: rest
    else (k, v) :: insert key value rest

/-- Sets keys to values in turn, so that the last value of a key stays. -/
def insertAll (pairs : List (String × Tree)) (fields : Fields) : Fields :=
  pairs.foldl (fun acc (k, v) => acc.insert k v) fields

/-- The fields with the given pairs. -/
def ofList (pairs : List (String × Tree)) : Fields :=
  insertAll pairs []

/-- The value of a key. -/
def get? (key : String) (fields : Fields) : Option Tree :=
  fields.lookup key

end Fields

namespace Tree

/-- The map with the given pairs. -/
def ofPairs (pairs : List (String × Tree)) : Tree :=
  .map (Fields.ofList pairs)

/-- Whether a tree is null or an empty text, list or map. -/
def isEmpty : Tree → Bool
  | null => true
  | text s => s.isEmpty
  | list items => items.isEmpty
  | map fields => fields.isEmpty
  | _ => false

/-- The kinds of tree nodes, as error messages name them. -/
inductive Kind where
  | null
  | boolean
  | number
  | string
  | array
  | object
  deriving DecidableEq, Repr

/-- The name of a kind. -/
def Kind.name : Kind → String
  | null => "null"
  | boolean => "boolean"
  | number => "number"
  | string => "string"
  | array => "array"
  | object => "object"

/-- The kind of a tree node. -/
def kind : Tree → Kind
  | null => .null
  | bool _ => .boolean
  | int _ => .number
  | real _ => .number
  | text _ => .string
  | list _ => .array
  | map _ => .object

/-- The value of a key, or nothing when the tree is no map or lacks the key. -/
def field? (key : String) : Tree → Option Tree
  | map fields => Fields.get? key fields
  | _ => none

end Tree

end QueryGateway
