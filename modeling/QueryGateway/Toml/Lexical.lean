import QueryGateway.Text.Hex
import QueryGateway.Tree.Basic

/-!
# The lexical layer of TOML

Blanks, line ends, comments, keys and strings. Each reader takes the characters
that are left and gives a value with the characters after it, or nothing when
the text does not fit.
-/

namespace QueryGateway.Toml

/-- Drops spaces and tabs. -/
def skipBlanks (s : List Char) : List Char :=
  s.dropWhile fun c => c == ' ' || c == '\t'

/-- The text after a line end, if one stands next. -/
def readLineEnd? : List Char → Option (List Char)
  | '\n' :: rest => some rest
  | '\r' :: '\n' :: rest => some rest
  | _ => none

/-- Whether a character may stand in a comment. -/
def isCommentChar (c : Char) : Bool :=
  c == '\t' || (' ' ≤ c && c != '\x7f')

/-- Drops a comment if one stands next. -/
def skipComment : List Char → List Char
  | '#' :: rest => rest.dropWhile isCommentChar
  | s => s

/-- The text after the blanks, the comment and the line end that finish a line.
The end of the text finishes a line too. -/
def finishLine? (s : List Char) : Option (List Char) :=
  match skipComment (skipBlanks s) with
  | [] => some []
  | rest => readLineEnd? rest

/-- Drops blanks, comments and line ends, as between the items of a list. The
fuel bounds the number of lines. -/
def skipLines : Nat → List Char → List Char
  | 0, s => s
  | fuel + 1, s =>
    let rest := skipComment (skipBlanks s)
    match readLineEnd? rest with
    | some after => skipLines fuel after
    | none => rest

/-- The value of exactly `n` hexadecimal digits. -/
def readHex? : Nat → Nat → List Char → Option (Nat × List Char)
  | 0, value, s => some (value, s)
  | n + 1, value, c :: rest => do readHex? n (value * 16 + (← Text.hexValue? c)) rest
  | _ + 1, _, [] => none

/-- The character of an escape whose backslash has been read. -/
def readEscape? : List Char → Option (Char × List Char)
  | 'b' :: rest => some ('\x08', rest)
  | 't' :: rest => some ('\t', rest)
  | 'n' :: rest => some ('\n', rest)
  | 'f' :: rest => some ('\x0c', rest)
  | 'r' :: rest => some ('\r', rest)
  | '"' :: rest => some ('"', rest)
  | '\\' :: rest => some ('\\', rest)
  | 'u' :: rest => do
    let (n, rest) ← readHex? 4 0 rest
    some (← Text.charOf? n, rest)
  | 'U' :: rest => do
    let (n, rest) ← readHex? 8 0 rest
    some (← Text.charOf? n, rest)
  | _ => none

/-- Whether a character may stand in a string; its delimiter is tested before. -/
def isStringChar (c : Char) : Bool :=
  c == '\t' || (' ' ≤ c && c != '\x7f')

/-- The rest of a basic string, whose characters so far are given in reverse. -/
def readBasic? : Nat → List Char → List Char → Option (String × List Char)
  | 0, _, _ => none
  | fuel + 1, read, s =>
    match s with
    | [] => none
    | '"' :: rest => some (String.ofList read.reverse, rest)
    | '\\' :: rest => do
      let (c, rest) ← readEscape? rest
      readBasic? fuel (c :: read) rest
    | c :: rest => if isStringChar c then readBasic? fuel (c :: read) rest else none

/-- The rest of a literal string. -/
def readLiteral? (s : List Char) : Option (String × List Char) :=
  let body := s.takeWhile fun c => c != '\'' && isStringChar c
  match s.drop body.length with
  | '\'' :: rest => some (String.ofList body, rest)
  | _ => none

/-- The number of marks that stand next. -/
def countMarks (mark : Char) (s : List Char) : Nat :=
  (s.takeWhile (· == mark)).length

/-- The text after a backslash at the end of a line: all blanks and line ends go. -/
def skipContinuation? (s : List Char) : Option (List Char) := do
  let rest ← readLineEnd? (skipBlanks s)
  some (rest.dropWhile fun c => c == ' ' || c == '\t' || c == '\n' || c == '\r')

/-- The rest of a multi-line string between triple marks; `escapes` tells a basic
from a literal one. Up to two marks may precede the closing three. -/
def readMultiLine? (mark : Char) (escapes : Bool) :
    Nat → List Char → List Char → Option (String × List Char)
  | 0, _, _ => none
  | fuel + 1, read, s =>
    match s with
    | [] => none
    | c :: rest =>
      if c == mark then
        let marks := min (countMarks mark s) 5
        if marks < 3 then readMultiLine? mark escapes fuel (c :: read) rest
        else
          some (String.ofList (read.reverse ++ List.replicate (marks - 3) mark), s.drop marks)
      else if c == '\\' && escapes then
        match skipContinuation? rest with
        | some after => readMultiLine? mark escapes fuel read after
        | none => do
          let (e, after) ← readEscape? rest
          readMultiLine? mark escapes fuel (e :: read) after
      else
        match readLineEnd? s with
        | some after => readMultiLine? mark escapes fuel ('\n' :: read) after
        | none =>
          if isStringChar c then readMultiLine? mark escapes fuel (c :: read) rest else none

/-- A single-line string of either kind. -/
def readLineString? : List Char → Option (String × List Char)
  | '"' :: rest => readBasic? (rest.length + 1) [] rest
  | '\'' :: rest => readLiteral? rest
  | _ => none

/-- A string of any kind. A line end right after the opening marks is dropped. -/
def readString? (s : List Char) : Option (String × List Char) :=
  let multi (mark : Char) (rest : List Char) :=
    let body := (readLineEnd? rest).getD rest
    readMultiLine? mark (mark == '"') (body.length + 1) [] body
  match s with
  | '"' :: '"' :: '"' :: rest => multi '"' rest
  | '\'' :: '\'' :: '\'' :: rest => multi '\'' rest
  | s => readLineString? s

/-- Whether a character may stand in a bare key. -/
def isBareKeyChar (c : Char) : Bool :=
  Text.isAsciiAlphanumeric c || c == '-' || c == '_'

/-- One part of a dotted key. -/
def readSimpleKey? (s : List Char) : Option (String × List Char) :=
  match s with
  | '"' :: _ => readLineString? s
  | '\'' :: _ => readLineString? s
  | _ =>
    let key := s.takeWhile isBareKeyChar
    if key.isEmpty then none else some (String.ofList key, s.drop key.length)

/-- The parts of a key with blanks around them. The fuel bounds their number. -/
def readKeyParts? : Nat → List Char → Option (List String × List Char)
  | 0, _ => none
  | fuel + 1, s => do
    let (key, rest) ← readSimpleKey? (skipBlanks s)
    match skipBlanks rest with
    | '.' :: rest => do
      let (keys, rest) ← readKeyParts? fuel rest
      some (key :: keys, rest)
    | rest => some ([key], rest)

/-- Keys with this many parts, and values nested this deep, are refused. -/
def depthLimit : Nat := 80

/-- A dotted key with the blanks around it. -/
def readKey? (s : List Char) : Option (List String × List Char) :=
  readKeyParts? (depthLimit - 1) s

end QueryGateway.Toml
