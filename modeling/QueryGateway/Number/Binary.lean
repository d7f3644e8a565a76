import QueryGateway.Number.Power

/-!
# Binary floating-point numbers

A number of an interchange format is its bit pattern. Values are decoded into
a sign, a coefficient and a power of two, and a non-negative ratio is rounded
to the nearest number, half-way cases to the even one. All arithmetic is exact.
-/

namespace QueryGateway

/-- An interchange format, given by the widths of its fraction and exponent fields. -/
structure BinaryFormat where
  fractionBits : Nat
  exponentBits : Nat
  deriving DecidableEq, Repr

namespace BinaryFormat

/-- The 64-bit format. -/
abbrev double : BinaryFormat := ⟨52, 11⟩

/-- The 32-bit format. -/
abbrev single : BinaryFormat := ⟨23, 8⟩

/-- The power of two that the last place of the smallest numbers stands for. -/
def leastExponent (f : BinaryFormat) : Int :=
  2 - 2 ^ (f.exponentBits - 1) - f.fractionBits

/-- The bit pattern of infinity. -/
def infinityBits (f : BinaryFormat) : Nat :=
  (2 ^ f.exponentBits - 1) * 2 ^ f.fractionBits

/-- The weight of the sign bit. -/
def signWeight (f : BinaryFormat) : Nat :=
  2 ^ (f.fractionBits + f.exponentBits)

/-- The ratio `num / den` divided by a power of two, as a ratio. -/
def scale (num den : Nat) (e : Int) : Nat × Nat :=
  if 0 ≤ e then (num, den * 2 ^ e.toNat) else (num * 2 ^ (-e).toNat, den)

/-- The quotient rounded to the nearest integer, half-way cases to the even one. -/
def roundDiv (num den : Nat) : Nat :=
  let q := num / den
  let r := num % den
  if den < 2 * r || (2 * r == den && q % 2 == 1) then q + 1 else q

/-- The exponent of the last place of the ratio `num / den` in the format. -/
def placeOf (f : BinaryFormat) (num den : Nat) : Int :=
  let e : Int := (Nat.log2 num : Int) - Nat.log2 den - (f.fractionBits + 1)
  let (n, d) := scale num den e
  max (if 2 ^ (f.fractionBits + 1) ≤ n / d then e + 1 else e) f.leastExponent

/-- The bit pattern of the number nearest to `num / den`. Adding the rounded
coefficient to the exponent field carries into the next binade by itself. -/
def roundRatio (f : BinaryFormat) (num den : Nat) : Nat :=
  if num == 0 then 0
  else
    let e := f.placeOf num den
    let (n, d) := scale num den e
    min f.infinityBits ((e - f.leastExponent).toNat * 2 ^ f.fractionBits + roundDiv n d)

end BinaryFormat

/-- A number of a binary format, as its bit pattern. -/
structure Binary (f : BinaryFormat) where
  bits : Nat
  deriving DecidableEq, Repr

/-- A number of the 64-bit format. -/
abbrev Binary64 := Binary .double

/-- A number of the 32-bit format. -/
abbrev Binary32 := Binary .single

namespace Binary

variable {f : BinaryFormat}

/-- The value of a bit pattern. A finite value is the coefficient times a power of two. -/
inductive Value where
  | finite (negative : Bool) (coefficient : Nat) (exponent : Int)
  | infinite (negative : Bool)
  | notANumber
  deriving DecidableEq, Repr

/-- Whether the sign bit is set. -/
def isNegative (x : Binary f) : Bool :=
  f.signWeight ≤ x.bits

/-- The bit pattern without its sign. -/
def magnitude (x : Binary f) : Nat :=
  x.bits % f.signWeight

/-- The value that a number stands for. -/
def value (x : Binary f) : Value :=
  let field := x.magnitude / 2 ^ f.fractionBits
  let fraction := x.magnitude % 2 ^ f.fractionBits
  if f.infinityBits < x.magnitude then .notANumber
  else if x.magnitude == f.infinityBits then .infinite x.isNegative
  else if field == 0 then .finite x.isNegative fraction f.leastExponent
  else .finite x.isNegative (2 ^ f.fractionBits + fraction) (f.leastExponent + (field - 1 : Nat))

/-- The number with the given sign and magnitude. -/
def ofMagnitude (negative : Bool) (magnitude : Nat) : Binary f :=
  ⟨if negative then f.signWeight + magnitude else magnitude⟩

/-- The number nearest to a ratio. -/
def ofRatio (negative : Bool) (num den : Nat) : Binary f :=
  ofMagnitude negative (f.roundRatio num den)

/-- The infinity with the given sign. -/
def infinity (negative : Bool) : Binary f :=
  ofMagnitude negative f.infinityBits

/-- A number that is not a number. -/
def nan : Binary f :=
  ⟨f.infinityBits + 2 ^ (f.fractionBits - 1)⟩

/-- The number of decimal digits of a positive integer. -/
def digitCount (n : Nat) : Nat :=
  (Nat.toDigits 10 n).length

/-- The number nearest to `coefficient * 10 ^ exponent`. Exponents far outside
the range of the format are settled without computing the power. -/
def ofDecimal (negative : Bool) (coefficient : Nat) (exponent : Int) : Binary f :=
  if coefficient == 0 then ofMagnitude negative 0
  else if 400 < exponent then infinity negative
  else if exponent + digitCount coefficient < -400 then ofMagnitude negative 0
  else if 0 ≤ exponent then ofRatio negative (coefficient * 10 ^ exponent.toNat) 1
  else ofRatio negative coefficient (10 ^ (-exponent).toNat)

/-- The magnitude of a finite number as a ratio; zero for the others. -/
def ratio (x : Binary f) : Nat × Nat :=
  match x.value with
  | .finite _ m e => if 0 ≤ e then (m * 2 ^ e.toNat, 1) else (m, 2 ^ (-e).toNat)
  | _ => (0, 1)

/-- Whether a number is finite. -/
def isFinite (x : Binary f) : Bool :=
  x.magnitude < f.infinityBits

/-- Whether a number is a zero of either sign. -/
def isZero (x : Binary f) : Bool :=
  x.magnitude == 0

/-- The product of two finite numbers that are not negative. -/
def mul (x y : Binary f) : Binary f :=
  let (a, b) := x.ratio
  let (c, d) := y.ratio
  ofRatio false (a * c) (b * d)

/-- The quotient of two finite numbers that are not negative, the second not zero. -/
def div (x y : Binary f) : Binary f :=
  let (a, b) := x.ratio
  let (c, d) := y.ratio
  ofRatio false (a * d) (b * c)

/-- The same number with the other sign. -/
def negate (x : Binary f) : Binary f :=
  ofMagnitude (!x.isNegative) x.magnitude

/-- The integer that a number is equal to, if it is one. -/
def toInt? (x : Binary f) : Option Int :=
  match x.value with
  | .finite negative m e =>
    let n? : Option Nat :=
      if 0 ≤ e then some (m * 2 ^ e.toNat)
      else if m % 2 ^ (-e).toNat == 0 then some (m / 2 ^ (-e).toNat)
      else none
    n?.map fun n => if negative then -(n : Int) else n
  | _ => none

end Binary

end QueryGateway
