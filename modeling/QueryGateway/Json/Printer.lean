import QueryGateway.Tree.Basic

/-!
# Writing JSON

Trees are written as compact JSON: no blanks, fields in the order of their
keys, and texts with the short escapes where there is one, `\u00xx` for the
other control characters, and every other character as itself.
-/

namespace QueryGateway.Json

/-- A hexadecimal digit in lower case. -/
def hexDigit (n : Nat) : Char :=
  if n < 10 then Char.ofNat (48 + n) else Char.ofNat (87 + n)

/-- A character inside a JSON string. -/
def escapeChar (c : Char) : List Char :=
  if c == '"' then ['\\', '"']
  else if c == '\\' then ['\\', '\\']
  else if c == '\n' then ['\\', 'n']
  else if c == '\r' then ['\\', 'r']
  else if c == '\t' then ['\\', 't']
  else if c.toNat == 8 then ['\\', 'b']
  else if c.toNat == 12 then ['\\', 'f']
  else if c.toNat < 32 then
    ['\\', 'u', '0', '0', hexDigit (c.toNat / 16), hexDigit (c.toNat % 16)]
  else [c]

/-- A text as a JSON string. -/
def quote (s : String) : List Char :=
  '"' :: s.toList.flatMap escapeChar ++ ['"']

mutual

/-- A tree as compact JSON. -/
def render : Tree → List Char
  | .null => "null".toList
  | .bool b => (if b then "true" else "false").toList
  | .int n => (toString n).toList
  | .real x => x.render.toList
  | .text s => quote s
  | .list items => '[' :: renderItems true items ++ [']']
  | .map fields => '{' :: renderFields true fields ++ ['}']

/-- List items separated by commas; `first` says that no item precedes. -/
def renderItems (first : Bool) : List Tree → List Char
  | [] => []
  | t :: rest => (if first then [] else [',']) ++ render t ++ renderItems false rest

/-- Map fields separated by commas; `first` says that no field precedes. -/
def renderFields (first : Bool) : List (String × Tree) → List Char
  | [] => []
  | (k, t) :: rest =>
    (if first then [] else [',']) ++ quote k ++ ':' :: render t ++ renderFields false rest

end

/-- A tree as a string of compact JSON. -/
def renderString (t : Tree) : String :=
  String.ofList (render t)

end QueryGateway.Json

namespace QueryGateway.Tree

/-- The text of a tree: nothing for null, a text itself, and compact JSON otherwise. -/
def toText : Tree → String
  | .null => ""
  | .text s => s
  | t => Json.renderString t

end QueryGateway.Tree
