import QueryGateway.Text.Letter
import QueryGateway.Text.Split
import QueryGateway.Text.Utf8

/-!
# Environments and environment files

An environment gives values to names. An environment file adds entries of the
form `name=value`, one to a line, and never changes a name that has a value. A
value may be quoted, may continue over lines inside quotes, and may refer to
the values of other names. Reading a file ends at the first entry that is
malformed; the entries before it stay.
-/

namespace QueryGateway

/-- Names with values. -/
structure Environment where
  entries : List (String × String) := []
  deriving DecidableEq, Repr

namespace Environment

/-- The value of a name. -/
def get? (env : Environment) (name : String) : Option String :=
  env.entries.lookup name

/-- The environment in which a name has a value, the given one unless it has one already. -/
def provide (env : Environment) (name value : String) : Environment :=
  if (env.get? name).isSome then env else ⟨env.entries ++ [(name, value)]⟩

/-! ## Lines -/

/-- Where a reader stands between two characters: outside of quotes, after a
blank there, inside of quotes, or after a backslash. -/
inductive Place where
  | plain
  | blank
  | escaped
  | quoted (mark : Char)
  | quotedEscaped (mark : Char)
  deriving DecidableEq, Repr

namespace Place

/-- The place after a character outside of quotes. -/
def leave (c : Char) : Place :=
  if c == '\\' then escaped
  else if c == '"' || c == '\'' then quoted c
  else plain

/-- The place after a character, or nothing where a comment begins. -/
def next? (p : Place) (c : Char) : Option Place :=
  match p with
  | plain =>
    some (if Text.isBlank c && c != '\n' && c != '\r' then blank else leave c)
  | blank => if c == '#' then none else some (leave c)
  | escaped => some plain
  | quoted mark =>
    some (if c == '\\' then quotedEscaped mark else if c == mark then plain else quoted mark)
  | quotedEscaped mark => some (quoted mark)

/-- The part of a line before its comment and the place at its end, which is
missing when there is a comment. -/
def scan (p : Place) : List Char → List Char × Option Place
  | [] => ([], some p)
  | c :: rest =>
    match p.next? c with
    | none => ([], none)
    | some q =>
      let (before, last) := q.scan rest
      (c :: before, last)

end Place

/-- A line without the line end that closes it. -/
def dropLineEnd (line : List Char) : List Char :=
  match line.reverse with
  | '\n' :: '\r' :: rest => rest.reverse
  | '\n' :: rest => rest.reverse
  | _ => line

/-- The lines of a file with their line ends. -/
def lines : Bytes → List Bytes
  | [] => []
  | b :: rest =>
    if b == 10 then [b] :: lines rest
    else
      match lines rest with
      | [] => [[b]]
      | line :: others => (b :: line) :: others

/-- Joins the lines of entries that continue over several lines. What is read so
far of an entry comes first, with the place at its end. An entry without end
and a line that is no text are missing entries. -/
def joinLines (read : List Char) (p : Place) : List Bytes → List (Option (List Char))
  | [] => if p == .plain then [] else [none]
  | bytes :: rest =>
    match Utf8.toString? bytes with
    | none => [none]
    | some line =>
      let whole := read ++ line.toList
      if (Text.trimLeft whole).head? == some '#' then joinLines [] .plain rest
      else
        match p.scan line.toList with
        | (before, none) => some (read ++ before) :: joinLines [] .plain rest
        | (_, some .plain) => some (dropLineEnd whole) :: joinLines [] .plain rest
        | (_, some q) => joinLines whole q rest

/-! ## Values -/

/-- What a character means inside a value: itself, the escape of the next one, a
letter of a name to be replaced by its value, or part of a comment. -/
inductive Phase where
  | text
  | escaped
  | name (read : List Char)
  | bracedName (read : List Char)
  | after
  deriving DecidableEq, Repr

/-- An unfinished value: the phase, the quotation mark in force and the text so far. -/
structure Unfinished where
  phase : Phase := .text
  mark : Option Char := none
  value : List Char := []
  deriving DecidableEq, Repr

/-- The value of a name, empty when it has none. -/
def expand (env : Environment) (name : List Char) : List Char :=
  ((env.get? (String.ofList name)).getD "").toList

/-- The character that a backslash and a character stand for. -/
def unescape? (c : Char) : Option Char :=
  if c == 'n' then some '\n'
  else if "\\'\"$ ".toList.contains c then some c
  else none

namespace Unfinished

/-- A character added to the value. -/
def push (r : Unfinished) (c : Char) : Unfinished :=
  { r with phase := .text, value := r.value ++ [c] }

/-- The next character where no escape, name or comment is being read. -/
def readText (r : Unfinished) (c : Char) : Unfinished :=
  if r.mark == some '\'' then
    if c == '\'' then { r with mark := none } else r.push c
  else if c == '$' then { r with phase := .name [] }
  else if c == '\\' then { r with phase := .escaped }
  else if r.mark == some '"' then
    if c == '"' then { r with mark := none } else r.push c
  else if c == '\'' || c == '"' then { r with mark := some c }
  else if c == ' ' || c == '\t' then { r with phase := .after }
  else r.push c

/-- Reads a value up to its end or to a comment after it. -/
def read? (env : Environment) (r : Unfinished) : List Char → Option (List Char)
  | [] =>
    match r.phase, r.mark with
    | _, some _ => none
    | .bracedName _, _ => none
    | .name name, _ => some (r.value ++ env.expand name)
    | _, _ => some r.value
  | c :: rest =>
    match r.phase with
    | .text => (r.readText c).read? env rest
    | .escaped => do (r.push (← unescape? c)).read? env rest
    | .after =>
      if c == ' ' || c == '\t' then r.read? env rest
      else if c == '#' then some r.value
      else none
    | .name name =>
      if Text.isAlphanumeric c then
        { r with phase := .name (name ++ [c]) }.read? env rest
      else if c == '\x7b' && name.isEmpty then
        { r with phase := .bracedName [] }.read? env rest
      else
        let r := { r with value := r.value ++ env.expand name }
        if c == '$' then { r with phase := .name [] }.read? env rest
        else (r.push c).read? env rest
    | .bracedName name =>
      if c == '\x7d' then
        { r with phase := .text, value := r.value ++ env.expand name }.read? env rest
      else { r with phase := .bracedName (name ++ [c]) }.read? env rest

end Unfinished

/-! ## Entries -/

/-- A name at the start of a text, and the text after the blanks that follow it. -/
def readName? (s : List Char) : Option (List Char × List Char) := do
  let first ← s.head?
  let isNameChar (c : Char) : Bool := Text.isAsciiAlphanumeric c || c == '_' || c == '.'
  if isNameChar first && !Text.isAsciiDigit first && first != '.' then
    some (s.takeWhile isNameChar, Text.trimLeft (s.dropWhile isNameChar))
  else none

/-- The name of an entry, and the text after its equals sign. The word `export`
may come before the name. -/
def readTarget? (s : List Char) : Option (List Char × List Char) := do
  let (name, rest) ← readName? s
  let (name, rest) ←
    if name == "export".toList && rest.head? != some '=' then readName? rest
    else some (name, rest)
  match rest with
  | '=' :: value => some (name, Text.trimLeft value)
  | _ => none

/-- The environment after an entry, which may be blank or a comment. -/
def readEntry? (env : Environment) (line : List Char) : Option Environment :=
  let s := Text.trim line
  if s.isEmpty || s.head? == some '#' then some env
  else do
    let (name, rest) ← readTarget? s
    let value ←
      if rest.isEmpty || rest.head? == some '#' then some []
      else ({} : Unfinished).read? env rest
    return env.provide (String.ofList name) (String.ofList value)

/-- The environment after entries in turn, up to the first that is malformed. -/
def readEntries (env : Environment) : List (Option (List Char)) → Environment
  | [] => env
  | none :: _ => env
  | some line :: rest =>
    match env.readEntry? line with
    | none => env
    | some env => env.readEntries rest

/-- The byte order mark, which may begin a file. -/
def byteOrderMark : Bytes := [0xEF, 0xBB, 0xBF]

/-- The environment after the entries of a file. -/
def readFile (env : Environment) (file : Bytes) : Environment :=
  let file := if byteOrderMark.isPrefixOf file then file.drop byteOrderMark.length else file
  env.readEntries (joinLines [] .plain (lines file))

/-- The names that a file may refer to. -/
def mentioned (file : Bytes) : List String :=
  let isNameChar (c : Char) : Bool := Text.isAlphanumeric c || c == '_' || c == '.'
  let text := (Utf8.toString? file).getD ""
  (Text.pieces (fun c => !isNameChar c) text.toList).map String.ofList

end Environment

end QueryGateway
