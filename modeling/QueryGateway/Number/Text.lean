import QueryGateway.Number.Shortest
import QueryGateway.Text.Letter

/-!
# Numbers as text

Writing: a number is written with its shortest digits, positionally with at
least one fractional digit when its decimal exponent lies between -5 and 15,
and otherwise with an exponent that carries its sign. Reading: an optional sign,
then `inf`, `infinity` or `nan` in any case, or decimal digits with an optional
fraction and exponent. Integers are an optional sign and decimal digits.
-/

namespace QueryGateway

/-- How a format writes numbers: the decimal exponents that are positional. -/
structure NumberStyle where
  leastPositional : Int
  greatestPositional : Int

/-- Numbers are positional from `0.00001` to below `10 ^ 16`. -/
def NumberStyle.standard : NumberStyle :=
  ⟨-5, 15⟩

/-- The positional form of a decimal, with at least one digit on either side of the point. -/
def DecimalDigits.positional (d : DecimalDigits) : List Char :=
  let n : Int := d.digits.length
  if d.point ≤ 0 then
    '0' :: '.' :: List.replicate (-d.point).toNat '0' ++ d.digits
  else if n ≤ d.point then
    d.digits ++ List.replicate (d.point - n).toNat '0' ++ ['.', '0']
  else
    d.digits.take d.point.toNat ++ '.' :: d.digits.drop d.point.toNat

/-- The form of a decimal with one digit before the point and an exponent. -/
def DecimalDigits.scientific (d : DecimalDigits) : List Char :=
  let x := d.point - 1
  let exponent := 'e' :: (if x < 0 then '-' else '+') :: Nat.toDigits 10 x.natAbs
  match d.digits with
  | [] => exponent
  | [c] => c :: exponent
  | c :: rest => c :: '.' :: rest ++ exponent

/-- The text of a decimal in the given style. -/
def DecimalDigits.render (style : NumberStyle) (d : DecimalDigits) : List Char :=
  let x := d.point - 1
  if style.leastPositional ≤ x && x ≤ style.greatestPositional then d.positional
  else d.scientific

namespace Binary

variable {f : BinaryFormat}

/-- The text of a number. -/
def render (x : Binary f) : String :=
  match x.value with
  | .notANumber => "NaN"
  | .infinite negative => if negative then "-inf" else "inf"
  | .finite negative m e =>
    let body := if m == 0 then "0.0".toList else (shortest f m e).render .standard
    String.ofList (if negative then '-' :: body else body)

end Binary

namespace Number

/-- The value of a list of decimal digits. -/
def ofDigits (digits : List Char) : Nat :=
  digits.foldl (fun acc c => acc * 10 + (c.toNat - 48)) 0

/-- The sign and the rest of a text that may begin with a sign. -/
def splitSign : List Char → Bool × List Char
  | '-' :: rest => (true, rest)
  | '+' :: rest => (false, rest)
  | s => (false, s)

/-- The natural number that a text of one or more decimal digits denotes. -/
def readNat? (s : List Char) : Option Nat :=
  if !s.isEmpty && s.all Text.isAsciiDigit then some (ofDigits s) else none

/-- The integer that an optional sign and decimal digits denote. -/
def readInt? (s : List Char) : Option Int :=
  let (negative, rest) := splitSign s
  (readNat? rest).map fun n => if negative then -(n : Int) else n

/-- What a text denotes as a real number. -/
inductive Reading where
  | notANumber
  | infinite (negative : Bool)
  | decimal (negative : Bool) (coefficient : Nat) (exponent : Int)
  deriving DecidableEq, Repr

/-- The exponent part of a number, or no exponent when the text is finished. -/
def readExponent? : List Char → Option Int
  | [] => some 0
  | c :: rest => if c == 'e' || c == 'E' then readInt? rest else none

/-- The reading of digits with an optional fraction and exponent. At least one
digit stands before or after the point. -/
def readDecimal? (negative : Bool) (s : List Char) : Option Reading :=
  let whole := s.takeWhile Text.isAsciiDigit
  let rest := s.dropWhile Text.isAsciiDigit
  let (fraction, rest) :=
    match rest with
    | '.' :: r => (r.takeWhile Text.isAsciiDigit, r.dropWhile Text.isAsciiDigit)
    | r => ([], r)
  if whole.isEmpty && fraction.isEmpty then none
  else
    (readExponent? rest).map fun e =>
      .decimal negative (ofDigits (whole ++ fraction)) (e - fraction.length)

/-- The reading of a text as a real number. -/
def read? (s : List Char) : Option Reading :=
  let (negative, rest) := splitSign s
  let lower := rest.map Char.toLower
  if lower == "nan".toList then some .notANumber
  else if lower == "inf".toList || lower == "infinity".toList then some (.infinite negative)
  else readDecimal? negative rest

/-- The number of a format that a text denotes. -/
def toBinary? (f : BinaryFormat) (s : String) : Option (Binary f) :=
  (read? s.toList).map fun
    | .notANumber => .nan
    | .infinite negative => .infinity negative
    | .decimal negative c e => .ofDecimal negative c e

end Number

end QueryGateway
