import QueryGateway.Json.Input
import QueryGateway.Tree.Basic

/-!
# Reading JSON strings and numbers

Strings are read byte by byte; surrogate escapes come in pairs, and the bytes
have to be well-formed UTF-8. Numbers written as integers of 64 bits stay
integers. All others keep as many leading digits as fit into 64 bits, and that
significand is multiplied or divided by a power of ten in binary arithmetic.
-/

namespace QueryGateway.Json

/-- The value of a hexadecimal digit. -/
def hexValue? (b : UInt8) : Option Nat :=
  if 0x30 ≤ b && b ≤ 0x39 then some (b.toNat - 0x30)
  else if 0x41 ≤ b && b ≤ 0x46 then some (b.toNat - 0x37)
  else if 0x61 ≤ b && b ≤ 0x66 then some (b.toNat - 0x57)
  else none

/-- The value of four hexadecimal digits. -/
def readHex (i : Input) : Except Failure (Nat × Input) :=
  match i.rest with
  | a :: b :: c :: d :: _ =>
    let after := Input.advanceBy 4 i
    match hexValue? a, hexValue? b, hexValue? c, hexValue? d with
    | some w, some x, some y, some z => .ok (((w * 16 + x) * 16 + y) * 16 + z, after)
    | _, _, _, _ => .error (after.fail .invalidEscape)
  | rest => .error ((Input.advanceBy rest.length i).fail .endInString)

/-- Reads the given byte of the second half of a surrogate pair. -/
def expectPairByte (b : UInt8) (i : Input) : Except Failure Input :=
  match i.next? with
  | none => .error (i.fail .endInString)
  | some (c, after) => if c == b then .ok after else .error (after.fail .endOfHexEscape)

/-- The character of a `\u` escape whose `\u` has been read. -/
def readUnicodeEscape (i : Input) : Except Failure (Char × Input) := do
  let (n, i) ← readHex i
  if 0xDC00 ≤ n && n ≤ 0xDFFF then .error (i.fail .loneSurrogate)
  else if n < 0xD800 || 0xDBFF < n then .ok (Char.ofNat n, i)
  else
    let i ← expectPairByte 0x5C i
    let i ← expectPairByte 0x75 i
    let (m, i) ← readHex i
    if m < 0xDC00 || 0xDFFF < m then .error (i.fail .loneSurrogate)
    else .ok (Char.ofNat ((n - 0xD800) * 0x400 + (m - 0xDC00) + 0x10000), i)

/-- The bytes of an escape whose backslash has been read. -/
def readEscape (i : Input) : Except Failure (Bytes × Input) :=
  match i.next? with
  | none => .error (i.fail .endInString)
  | some (b, after) =>
    if b == 0x22 || b == 0x5C || b == 0x2F then .ok ([b], after)
    else if b == 0x62 then .ok ([0x08], after)
    else if b == 0x66 then .ok ([0x0C], after)
    else if b == 0x6E then .ok ([0x0A], after)
    else if b == 0x72 then .ok ([0x0D], after)
    else if b == 0x74 then .ok ([0x09], after)
    else if b == 0x75 then do
      let (c, after) ← readUnicodeEscape after
      .ok (Utf8.encode [c], after)
    else .error (after.fail .invalidEscape)

/-- The bytes up to the closing quote. The bytes read so far are given in
reverse; the fuel bounds the number of pieces. -/
def readPieces : Nat → Bytes → Input → Except Failure (Bytes × Input)
  | 0, _, i => .error (i.fail .endInString)
  | fuel + 1, read, i =>
    match i.next? with
    | none => .error (i.fail .endInString)
    | some (b, after) =>
      if b == 0x22 then .ok (read.reverse, after)
      else if b == 0x5C then do
        let (piece, after) ← readEscape after
        readPieces fuel (piece.reverse ++ read) after
      else if b < 0x20 then .error (after.fail .controlCharacter)
      else readPieces fuel (b :: read) after

/-- The string whose opening quote has been read. Ill-formed UTF-8 is reported
at its first byte. -/
def readString (i : Input) : Except Failure (String × Input) := do
  let (bytes, after) ← readPieces (i.rest.length + 1) [] i
  match Utf8.decode? bytes with
  | some s => .ok (String.ofList s, after)
  | none =>
    let position := (Utf8.firstIllFormed? 0 0 i.rest).getD 0
    .error ((Input.advanceBy (position + 1) i).fail .invalidCodePoint)

/-- The bound of 64-bit significands. -/
def significandLimit : Nat := 2 ^ 64

/-- Whether a byte is a decimal digit. -/
def isDigitByte (b : UInt8) : Bool :=
  0x30 ≤ b && b ≤ 0x39

/-- The digits that stand next. -/
def nextDigits (i : Input) : List Nat :=
  (i.rest.takeWhile isDigitByte).map fun b => b.toNat - 0x30

/-- Extends a significand by digits while it fits into 64 bits, and counts the
digits taken. -/
def extend (significand : Nat) : List Nat → Nat × Nat
  | [] => (significand, 0)
  | d :: rest =>
    if significand * 10 + d < significandLimit then
      let (s, taken) := extend (significand * 10 + d) rest
      (s, taken + 1)
    else (significand, 0)

/-- The double nearest to a power of ten below `10 ^ 309`. -/
def powerOfTen (n : Nat) : Binary64 :=
  .ofRatio false (10 ^ n) 1

/-- The double for a significand and a power of ten, or nothing when it is too
large. A power beyond `10 ^ 308` is divided off in steps. -/
def scaleByTen (x : Binary64) (exponent : Int) : Option Binary64 :=
  if exponent.natAbs ≤ 308 then
    if 0 ≤ exponent then
      let y := x.mul (powerOfTen exponent.toNat)
      if y.isFinite then some y else none
    else some (x.div (powerOfTen exponent.natAbs))
  else if x.isZero then some x
  else if 0 ≤ exponent then none
  else
    let y := x.div (powerOfTen 308)
    if y.isZero then some y else scaleByTen y (exponent + 308)
termination_by exponent.natAbs
decreasing_by omega

/-- The number with the given sign, significand and power of ten. -/
def finish (negative : Bool) (significand : Nat) (exponent : Int) (i : Input) :
    Except Failure (Tree × Input) :=
  match scaleByTen (.ofRatio false significand 1) exponent with
  | none => .error (i.fail .numberOutOfRange)
  | some x => .ok (.real (if negative then x.negate else x), i)

/-- The largest exponent that is taken at its value. -/
def exponentLimit : Nat := 2 ^ 31

/-- The value of the digits of an exponent as far as it stays below the limit,
and the number of digits read, the one that passes the limit included. -/
def readExponentDigits (value : Nat) : List Nat → Option Nat × Nat
  | [] => (some value, 0)
  | d :: rest =>
    if value * 10 + d < exponentLimit then
      let (v, read) := readExponentDigits (value * 10 + d) rest
      (v, read + 1)
    else (none, 1)

/-- The rest of a number whose exponent mark stands next. -/
def readExponent (negative : Bool) (significand : Nat) (exponent : Int) (i : Input) :
    Except Failure (Tree × Input) :=
  let i := i.advance
  let (down, i) :=
    match i.peek? with
    | some 0x2B => (false, i.advance)
    | some 0x2D => (true, i.advance)
    | _ => (false, i)
  match i.next? with
  | none => .error (i.fail .endInValue)
  | some (b, after) =>
    if !isDigitByte b then .error (after.fail .invalidNumber)
    else
      match readExponentDigits (b.toNat - 0x30) (nextDigits after) with
      | (some e, read) =>
        finish negative significand (if down then exponent - e else exponent + e)
          (Input.advanceBy read after)
      | (none, read) =>
        let i := Input.advanceBy read after
        if significand != 0 && !down then .error (i.fail .numberOutOfRange)
        else .ok (.real (.ofMagnitude negative 0), Input.advanceBy (nextDigits i).length i)

/-- The rest of a number after all its digits that count: an exponent or nothing. -/
def readTail (negative : Bool) (significand : Nat) (exponent : Int) (i : Input) :
    Except Failure (Tree × Input) :=
  match i.peek? with
  | some 0x65 => readExponent negative significand exponent i
  | some 0x45 => readExponent negative significand exponent i
  | _ => finish negative significand exponent i

/-- The rest of a number whose decimal point stands next. Digits beyond the
significand are dropped. -/
def readFraction (negative : Bool) (significand : Nat) (exponent : Int) (i : Input) :
    Except Failure (Tree × Input) :=
  let i := i.advance
  let digits := nextDigits i
  let after := Input.advanceBy digits.length i
  if digits.isEmpty then
    match i.peek? with
    | some _ => .error (i.failNext .invalidNumber)
    | none => .error (i.failNext .endInValue)
  else
    let (s, taken) := extend significand digits
    readTail negative s (exponent - taken) after

/-- The rest of a number after its integer digits, `dropped` of which did not
fit into the significand. -/
def readAfterInteger (negative : Bool) (significand dropped : Nat) (i : Input) :
    Except Failure (Tree × Input) :=
  match i.peek? with
  | some 0x2E => readFraction negative significand dropped i
  | some 0x65 => readExponent negative significand dropped i
  | some 0x45 => readExponent negative significand dropped i
  | _ =>
    if dropped != 0 then finish negative significand dropped i
    else if !negative then .ok (.int significand, i)
    else if significand == 0 || 2 ^ 63 < significand then
      finish true significand 0 i
    else .ok (.int (-(significand : Int)), i)

/-- The number that stands next, after its minus sign if it is negative. -/
def readNumber (negative : Bool) (i : Input) : Except Failure (Tree × Input) :=
  match i.next? with
  | none => .error (i.fail .endInValue)
  | some (b, after) =>
    if b == 0x30 then
      match after.peek? with
      | some c =>
        if isDigitByte c then .error (after.failNext .invalidNumber)
        else readAfterInteger negative 0 0 after
      | none => readAfterInteger negative 0 0 after
    else if isDigitByte b then
      let digits := nextDigits i
      let (s, taken) := extend 0 digits
      readAfterInteger negative s (digits.length - taken) (Input.advanceBy digits.length i)
    else .error (after.fail .invalidNumber)

end QueryGateway.Json
