import QueryGateway.Pattern.Basic
import QueryGateway.Pattern.Property
import QueryGateway.Text.Blank
import QueryGateway.Text.Hex
import QueryGateway.Text.Split

/-!
# Escapes of patterns

Flags, the blanks and comments that one of them permits, and the escapes that
a backslash begins. Without the Unicode flag classes hold ASCII characters
only, so what would reach beyond them is refused.
-/

namespace QueryGateway.Pattern

open Text (CodeRanges)

/-- The flags in force while a pattern is read. -/
structure Flags where
  ignoreCase : Bool := false
  multiLine : Bool := false
  dotAll : Bool := false
  returnLines : Bool := false
  unicode : Bool := true
  ignoreBlanks : Bool := false
  deriving DecidableEq, Repr

/-- Drops blanks and comments, which run from a number sign to the end of the
line. The flag tells whether a comment has begun. -/
def dropComments (inComment : Bool) : List Char → List Char
  | [] => []
  | c :: rest =>
    if inComment then dropComments (c != '\n') rest
    else if c == '#' then dropComments true rest
    else if Text.isBlank c then dropComments false rest
    else c :: rest

/-- Drops blanks and comments where the flags permit them. -/
def Flags.skip (flags : Flags) (s : List Char) : List Char :=
  if flags.ignoreBlanks then dropComments false s else s

/-- The smallest parts of a pattern. A literal tells whether it was written as a
two-digit escape. -/
inductive Primitive where
  | literal (c : Char) (asByte : Bool)
  | set (members : CodeRanges)
  | anyChar
  | anchor (a : Anchor)
  deriving Repr

/-- The alphabet that the flags select for words. -/
def Flags.alphabet (flags : Flags) : Alphabet :=
  if flags.unicode then .unicode else .ascii

/-- A class under a possible negation. -/
def Flags.negateIf (flags : Flags) (negated : Bool) (set : CodeRanges) : Option CodeRanges :=
  if !negated then some set
  else if flags.unicode then some set.complement
  else none

/-- The closure of a class under case, if the flags ask for it. -/
def Flags.closeCase (flags : Flags) (set : CodeRanges) : CodeRanges :=
  if !flags.ignoreCase then set
  else if flags.unicode then set.closeCase
  else set.closeCase.inter .ascii

/-- The characters that a literal stands for, inside or outside a class. A byte
beyond ASCII needs the Unicode flag, and so does a literal beyond ASCII in a class. -/
def Flags.literalCode? (flags : Flags) (inClass : Bool) (c : Char) (asByte : Bool) :
    Option Nat :=
  if flags.unicode || Text.isAscii c then some c.toNat
  else if asByte && c.toNat ≤ 0xFF then none
  else if inClass then none
  else some c.toNat

/-- The digits, blanks or word characters. -/
def Flags.commonClass (flags : Flags) (digit blank : Bool) : CodeRanges :=
  if digit then if flags.unicode then digits else asciiDigits
  else if blank then if flags.unicode then blanks else asciiBlanks
  else if flags.unicode then wordChars else asciiWordChars

/-- Characters that have a meaning of their own in patterns. -/
def isMeta (c : Char) : Bool :=
  "\\.+*?()|[]\x7b\x7d^$#&-~".toList.contains c

/-- Characters that a backslash leaves as they are. -/
def isPlainEscape (c : Char) : Bool :=
  isMeta c ||
    (Text.isAscii c && !Text.isAsciiAlphanumeric c && c != '<' && c != '>')

/-- Exactly `n` more digits of a code point. -/
def readHexDigits? (flags : Flags) : Nat → Nat → List Char → Option (Nat × List Char)
  | 0, value, s => some (value, s)
  | n + 1, value, c :: rest => do
    readHexDigits? flags n (value * 16 + (← Text.hexValue? c)) (flags.skip rest)
  | _ + 1, _, [] => none

/-- The digits of a code point up to a closing brace. -/
def readBracedHex? (flags : Flags) (value : Nat) (some? : Bool) (fuel : Nat) :
    List Char → Option (Nat × List Char)
  | [] => none
  | '\x7d' :: rest => if some? then some (value, flags.skip rest) else none
  | c :: rest =>
    match fuel with
    | 0 => none
    | fuel + 1 => do
      readBracedHex? flags (value * 16 + (← Text.hexValue? c)) true fuel (flags.skip rest)

/-- A character given by its code point, with a fixed number of digits or braces. -/
def readCodePoint? (flags : Flags) (width : Nat) (s : List Char) :
    Option (Primitive × List Char) := do
  match flags.skip s with
  | '\x7b' :: rest => do
    let rest := flags.skip rest
    let (n, rest) ← readBracedHex? flags 0 false rest.length rest
    some (.literal (← Text.charOf? n) false, rest)
  | s => do
    let (n, rest) ← readHexDigits? flags width 0 s
    some (.literal (← Text.charOf? n) (width == 2), rest)

/-- What stands before and after the first occurrence of a separator of a
property and its value. -/
def splitProperty? (name : List Char) : Option (List Char × List Char) :=
  (Text.cutText ['!', '='] name).or ((Text.cut ':' name).or (Text.cut '=' name))

/-- The text up to a closing brace. -/
def readBraced? (flags : Flags) (fuel : Nat) : List Char → Option (List Char × List Char)
  | [] => none
  | '\x7d' :: rest => some ([], rest)
  | c :: rest =>
    match fuel with
    | 0 => none
    | fuel + 1 => do
      let (name, rest) ← readBraced? flags fuel (flags.skip rest)
      some (c :: name, rest)

/-- The name of a class after `\p`: a letter, or a text in braces. -/
def readProperty? (flags : Flags) (s : List Char) : Option (CodeRanges × List Char) := do
  match flags.skip s with
  | [] => none
  | '\\' :: _ => none
  | '\x7b' :: rest => do
    let rest := flags.skip rest
    let (name, rest) ← readBraced? flags rest.length rest
    match splitProperty? name with
    | some (property, value) => some (← classValued? property value, rest)
    | none => some (← classNamed? name, rest)
  | c :: rest => some (← classNamed? [c], flags.skip rest)

/-- The kinds of word boundary with a name in braces. -/
def namedBoundary? (alphabet : Alphabet) (name : List Char) : Option Anchor :=
  match String.ofList name with
  | "start" => some (.wordStart alphabet)
  | "end" => some (.wordEnd alphabet)
  | "start-half" => some (.wordStartHalf alphabet)
  | "end-half" => some (.wordEndHalf alphabet)
  | _ => none

/-- A word boundary after its `\b`. A brace that cannot begin a name belongs to
a repetition. -/
def readBoundary? (flags : Flags) (s : List Char) : Option (Primitive × List Char) :=
  let isNameChar (c : Char) : Bool := Text.isAsciiUpper c || Text.isAsciiLower c || c == '-'
  match s with
  | '\x7b' :: rest =>
    match flags.skip rest with
    | [] => none
    | c :: after =>
      if !isNameChar c then some (.anchor (.boundary flags.alphabet), s)
      else do
        let (name, rest) ← readBraced? flags (after.length + 1) (c :: after)
        if name.all isNameChar then some (.anchor (← namedBoundary? flags.alphabet name), rest)
        else none
  | s => some (.anchor (.boundary flags.alphabet), s)

/-- An escape after its backslash. -/
def readEscape? (flags : Flags) : List Char → Option (Primitive × List Char)
  | [] => none
  | c :: rest =>
    let common (digit blank negated : Bool) : Option (Primitive × List Char) := do
      some (.set (← flags.negateIf negated (flags.commonClass digit blank)), rest)
    let literal (d : Char) : Option (Primitive × List Char) := some (.literal d false, rest)
    let anchor (a : Anchor) : Option (Primitive × List Char) := some (.anchor a, rest)
    let property (negated : Bool) : Option (Primitive × List Char) := do
      let (set, rest) ← readProperty? flags rest
      if flags.unicode then
        some (.set (← flags.negateIf negated (flags.closeCase set)), rest)
      else none
    if isPlainEscape c then literal c
    else
      match c with
      | 'x' => readCodePoint? flags 2 rest
      | 'u' => readCodePoint? flags 4 rest
      | 'U' => readCodePoint? flags 8 rest
      | 'p' => property false
      | 'P' => property true
      | 'd' => common true false false
      | 'D' => common true false true
      | 's' => common false true false
      | 'S' => common false true true
      | 'w' => common false false false
      | 'W' => common false false true
      | 'a' => literal '\x07'
      | 'f' => literal '\x0c'
      | 't' => literal '\t'
      | 'n' => literal '\n'
      | 'r' => literal '\r'
      | 'v' => literal '\x0b'
      | 'A' => anchor .textStart
      | 'z' => anchor .textEnd
      | 'b' => readBoundary? flags rest
      | 'B' => anchor (.noBoundary flags.alphabet)
      | '<' => anchor (.wordStart flags.alphabet)
      | '>' => anchor (.wordEnd flags.alphabet)
      | _ => none

end QueryGateway.Pattern
