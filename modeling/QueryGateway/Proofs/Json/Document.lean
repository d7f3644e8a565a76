import QueryGateway.Text.Hex
import QueryGateway.Text.Utf8

/-!
# JSON documents

A document is what a JSON text denotes, with the members of objects in their order,
repeated ones included, and with numbers as they are spelled. The reader accepts the
texts of the JSON grammar only: control characters and lone surrogates in strings,
leading zeros, trailing commas and anything after the value are refused.
-/

namespace QueryGateway.Json

/-! ## Numbers -/

/-- One digit or more. -/
def isDigits (s : List Char) : Bool :=
  !s.isEmpty && s.all Text.isAsciiDigit

/-- The integer part of a number. -/
def isIntegerPart (s : List Char) : Bool :=
  isDigits s && (s.head? != some '0' || s == ['0'])

/-- A text without a sign at its front. -/
def dropSign : List Char → List Char
  | '+' :: s => s
  | '-' :: s => s
  | s => s

/-- An exponent or nothing. -/
def isExponent : List Char → Bool
  | [] => true
  | c :: s => (c == 'e' || c == 'E') && isDigits (dropSign s)

/-- What may follow the integer part of a number: a fraction and an exponent. -/
def isFraction : List Char → Bool
  | '.' :: s =>
    isDigits (s.takeWhile Text.isAsciiDigit) && isExponent (s.dropWhile Text.isAsciiDigit)
  | s => isExponent s

/-- A number without a minus sign. -/
def isUnsigned (s : List Char) : Bool :=
  isIntegerPart (s.takeWhile Text.isAsciiDigit) && isFraction (s.dropWhile Text.isAsciiDigit)

/-- The numbers of the JSON grammar. -/
def isNumber : List Char → Bool
  | '-' :: s => isUnsigned s
  | s => isUnsigned s

/-- A number as it is spelled. -/
structure NumberText where
  chars : List Char
  isNumber : isNumber chars = true
  deriving DecidableEq, Repr

/-- A JSON document. -/
inductive Document where
  | null
  | truth (b : Bool)
  | number (n : NumberText)
  | string (s : String)
  | list (items : List Document)
  | object (members : List (String × Document))
  deriving Repr

namespace Document

/-! ## Strings -/

/-- The number of four hexadecimal digits. -/
def readHex? : List Char → Option (Nat × List Char)
  | a :: b :: c :: d :: rest => do
    let n := ((← Text.hexValue? a) * 16 + (← Text.hexValue? b)) * 256 +
      ((← Text.hexValue? c) * 16 + (← Text.hexValue? d))
    some (n, rest)
  | _ => none

/-- The character of an escape by code units, of which a surrogate needs a second one. -/
def readUnicode? (s : List Char) : Option (Char × List Char) := do
  let (high, rest) ← readHex? s
  if 0xD800 ≤ high ∧ high < 0xDC00 then
    match rest with
    | '\\' :: 'u' :: rest => do
      let (low, rest) ← readHex? rest
      if 0xDC00 ≤ low ∧ low < 0xE000 then
        some (Char.ofNat (0x10000 + (high - 0xD800) * 0x400 + (low - 0xDC00)), rest)
      else none
    | _ => none
  else if 0xDC00 ≤ high ∧ high < 0xE000 then none
  else some (Char.ofNat high, rest)

/-- The character of an escape after its backslash. -/
def readEscape? : List Char → Option (Char × List Char)
  | [] => none
  | c :: rest =>
    if c = '"' ∨ c = '\\' ∨ c = '/' then some (c, rest)
    else if c = 'b' then some ('\x08', rest)
    else if c = 'f' then some ('\x0c', rest)
    else if c = 'n' then some ('\n', rest)
    else if c = 'r' then some ('\r', rest)
    else if c = 't' then some ('\t', rest)
    else if c = 'u' then readUnicode? rest
    else none

/-- A character inside a string. -/
def readChar? : List Char → Option (Char × List Char)
  | [] => none
  | c :: rest =>
    if c = '"' then none
    else if c = '\\' then readEscape? rest
    else if c.toNat < 0x20 then none
    else some (c, rest)

/-- The characters of a string up to its closing quote. The fuel bounds their number. -/
def readChars? : Nat → List Char → Option (List Char × List Char)
  | 0, _ => none
  | fuel + 1, s =>
    if s.head? = some '"' then some ([], s.tail)
    else do
      let (c, rest) ← readChar? s
      let (cs, rest) ← readChars? fuel rest
      some (c :: cs, rest)

/-- A string after its opening quote. -/
def readString? (s : List Char) : Option (String × List Char) :=
  (readChars? (s.length + 1) s).map fun (cs, rest) => (String.ofList cs, rest)

/-! ## Values -/

/-- The blanks between the parts of a document. -/
def isBlank (c : Char) : Bool :=
  c == ' ' || c == '\t' || c == '\n' || c == '\r'

/-- What follows the blanks at the front. -/
def skipBlanks (s : List Char) : List Char :=
  s.dropWhile isBlank

/-- The characters of numbers. -/
def isNumberChar (c : Char) : Bool :=
  Text.isAsciiDigit c || c == '-' || c == '+' || c == '.' || c == 'e' || c == 'E'

/-- A number, which takes all the characters of numbers that stand next. -/
def readNumber? (s : List Char) : Option (Document × List Char) :=
  if h : Json.isNumber (s.takeWhile isNumberChar) = true then
    some (.number ⟨s.takeWhile isNumberChar, h⟩, s.dropWhile isNumberChar)
  else none

/-- A value that is neither a string nor a list nor an object. -/
def readScalar? : List Char → Option (Document × List Char)
  | 'n' :: 'u' :: 'l' :: 'l' :: rest => some (.null, rest)
  | 't' :: 'r' :: 'u' :: 'e' :: rest => some (.truth true, rest)
  | 'f' :: 'a' :: 'l' :: 's' :: 'e' :: rest => some (.truth false, rest)
  | s => readNumber? s

/-- The name of a member, with the colon after it. -/
def readName? (s : List Char) : Option (String × List Char) :=
  match skipBlanks s with
  | '"' :: rest => do
    let (name, rest) ← readString? rest
    match skipBlanks rest with
    | ':' :: rest => some (name, rest)
    | _ => none
  | _ => none

/-- Parts of a list or an object up to its closing bracket, of which there is at least
one. The fuel bounds their number. -/
def readSeparated? {α : Type} (close : Char) (read : List Char → Option (α × List Char)) :
    Nat → List Char → Option (List α × List Char)
  | 0, _ => none
  | fuel + 1, s => do
    let (part, rest) ← read s
    match skipBlanks rest with
    | [] => none
    | c :: rest =>
      if c = close then some ([part], rest)
      else if c = ',' then do
        let (parts, rest) ← readSeparated? close read fuel rest
        some (part :: parts, rest)
      else none

/-- All parts of a list or an object after its opening bracket. -/
def readParts? {α : Type} (close : Char) (read : List Char → Option (α × List Char))
    (s : List Char) : Option (List α × List Char) :=
  if (skipBlanks s).head? = some close then some ([], (skipBlanks s).tail)
  else readSeparated? close read s.length s

/-- A member, given how its value is read. -/
def readMember? (read : List Char → Option (Document × List Char)) (s : List Char) :
    Option ((String × Document) × List Char) := do
  let (name, rest) ← readName? s
  let (value, rest) ← read rest
  some ((name, value), rest)

/-- A value. The fuel bounds the nesting of lists and objects. -/
def readValue? : Nat → List Char → Option (Document × List Char)
  | 0, _ => none
  | fuel + 1, s =>
    match skipBlanks s with
    | '"' :: rest => (readString? rest).map fun (s, rest) => (.string s, rest)
    | '[' :: rest =>
      (readParts? ']' (readValue? fuel) rest).map fun (items, rest) => (.list items, rest)
    | '\x7b' :: rest =>
      (readParts? '\x7d' (readMember? (readValue? fuel)) rest).map fun (members, rest) =>
        (.object members, rest)
    | s => readScalar? s

/-- The document of a text. A document is nested less deep than it has characters, so the
fuel does not run out on one. -/
def ofText? (s : List Char) : Option Document := do
  let (d, rest) ← readValue? (s.length + 1) s
  if skipBlanks rest = [] then some d else none

/-- The document of a body in UTF-8. -/
def ofBytes? (body : Bytes) : Option Document :=
  (Utf8.decode? body).bind ofText?

end Document

end QueryGateway.Json
