import QueryGateway.Text.Utf8

/-!
# Positions in JSON text

Reading consumes bytes and counts lines and columns. A failure is reported at
the position reached, or at the position after the byte that stands next. The
column counts the bytes since the last line feed.
-/

namespace QueryGateway.Json

/-- Why a text is not JSON. -/
inductive Cause where
  | endInValue
  | endInString
  | endInList
  | endInObject
  | expectedColon
  | expectedListCommaOrEnd
  | expectedObjectCommaOrEnd
  | expectedIdent
  | expectedValue
  | invalidEscape
  | invalidNumber
  | numberOutOfRange
  | invalidCodePoint
  | controlCharacter
  | keyMustBeString
  | loneSurrogate
  | trailingComma
  | trailingCharacters
  | endOfHexEscape
  | recursionLimit
  deriving DecidableEq, Repr

/-- The wording of a cause. -/
def Cause.message : Cause → String
  | endInValue => "EOF while parsing a value"
  | endInString => "EOF while parsing a string"
  | endInList => "EOF while parsing a list"
  | endInObject => "EOF while parsing an object"
  | expectedColon => "expected `:`"
  | expectedListCommaOrEnd => "expected `,` or `]`"
  | expectedObjectCommaOrEnd => "expected `,` or `\x7d`"
  | expectedIdent => "expected ident"
  | expectedValue => "expected value"
  | invalidEscape => "invalid escape"
  | invalidNumber => "invalid number"
  | numberOutOfRange => "number out of range"
  | invalidCodePoint => "invalid unicode code point"
  | controlCharacter => "control character (\\u0000-\\u001F) found while parsing a string"
  | keyMustBeString => "key must be a string"
  | loneSurrogate => "lone leading surrogate in hex escape"
  | trailingComma => "trailing comma"
  | trailingCharacters => "trailing characters"
  | endOfHexEscape => "unexpected end of hex escape"
  | recursionLimit => "recursion limit exceeded"

/-- A cause with the position at which it was found. -/
structure Failure where
  cause : Cause
  line : Nat
  column : Nat
  deriving DecidableEq, Repr

/-- The text of a failure. -/
def Failure.message (e : Failure) : String :=
  s!"{e.cause.message} at line {e.line} column {e.column}"

/-- The bytes not yet read, with the position reached. -/
structure Input where
  rest : Bytes
  line : Nat := 1
  column : Nat := 0

namespace Input

/-- The input after one byte, or the same input at its end. -/
def advance (i : Input) : Input :=
  match i.rest with
  | [] => i
  | b :: rest =>
    if b == 0x0A then ⟨rest, i.line + 1, 0⟩ else ⟨rest, i.line, i.column + 1⟩

/-- The input after `n` bytes. -/
def advanceBy : Nat → Input → Input
  | 0, i => i
  | n + 1, i => advanceBy n i.advance

/-- The next byte. -/
def peek? (i : Input) : Option UInt8 :=
  i.rest.head?

/-- The next byte and the input after it. -/
def next? (i : Input) : Option (UInt8 × Input) :=
  i.peek?.map fun b => (b, i.advance)

/-- A failure at the position reached. -/
def fail (i : Input) (cause : Cause) : Failure :=
  ⟨cause, i.line, i.column⟩

/-- A failure at the byte that stands next. -/
def failNext (i : Input) (cause : Cause) : Failure :=
  i.advance.fail cause

/-- Whether a byte is one of the four blanks of JSON. -/
def isBlankByte (b : UInt8) : Bool :=
  b == 0x20 || b == 0x09 || b == 0x0A || b == 0x0D

/-- The number of bytes until the first that is no blank. -/
def blanks (i : Input) : Nat :=
  (i.rest.takeWhile isBlankByte).length

/-- The input after the blanks that stand next. -/
def skipBlanks (i : Input) : Input :=
  advanceBy i.blanks i

end Input

end QueryGateway.Json
