import QueryGateway.Number.Binary

/-!
# The shortest decimal of a binary number

Of all decimals that lie in the rounding interval of a number, the shortest has
the fewest digits and is nearest to the number; a tie goes to the even digit.
The search tests, for one digit, two digits and so on, the two neighbours of
the number on the decimal grid with that many digits.
-/

namespace QueryGateway

/-- A decimal without sign: the digits, first digit not zero, and the power of
ten by which `0.digits` is multiplied. -/
structure DecimalDigits where
  digits : List Char
  point : Int
  deriving DecidableEq, Repr

namespace Binary

variable {f : BinaryFormat}

/-- The number `4 * coefficient` with the distances to the ends of the rounding
interval, in units of a quarter of the last place, and whether the ends belong to it. -/
structure Rounding where
  centre : Nat
  below : Nat
  above : Nat
  closed : Bool
  exponent : Int

/-- The rounding interval of a positive finite number. The gap below a power of
two is half as wide, except for the smallest normal number. -/
def roundingOf (f : BinaryFormat) (m : Nat) (e : Int) : Rounding where
  centre := 4 * m
  below := if m == 2 ^ f.fractionBits && f.leastExponent < e then 1 else 2
  above := 2
  closed := m % 2 == 0
  exponent := e - 2

/-- The least `point` with `m * 2 ^ e < 10 ^ point`, for a positive `m`. -/
def decimalPoint (m : Nat) (e : Int) : Int :=
  let scaled := m * 10 ^ 400
  let whole := if 0 ≤ e then scaled * 2 ^ e.toNat else scaled / 2 ^ (-e).toNat
  (digitCount whole : Int) - 400

/-- Whether the decimal `c` on the present grid lies in the rounding interval,
where one grid step is `q / p` quarters of the last place. -/
def Rounding.holds (r : Rounding) (p q c : Nat) : Bool :=
  let low := (r.centre - r.below) * p
  let high := (r.centre + r.above) * p
  if r.closed then low ≤ c * q && c * q ≤ high else low < c * q && c * q < high

/-- The best decimal with `n` digits in the rounding interval, if there is one. -/
def Rounding.best? (r : Rounding) (point : Int) (n : Nat) : Option Nat :=
  let places := point - n
  let p := (if 0 ≤ r.exponent then 2 ^ r.exponent.toNat else 1) *
    (if places < 0 then 10 ^ (-places).toNat else 1)
  let q := (if 0 ≤ r.exponent then 1 else 2 ^ (-r.exponent).toNat) *
    (if 0 ≤ places then 10 ^ places.toNat else 1)
  let c := r.centre * p / q
  let rest := r.centre * p % q
  match r.holds p q c, r.holds p q (c + 1) with
  | true, true =>
    if 2 * rest < q || (2 * rest == q && c % 2 == 0) then some c else some (c + 1)
  | true, false => some c
  | false, true => some (c + 1)
  | false, false => none

/-- The first of the digit counts `n`, `n + 1`, … for which a decimal is found,
with that decimal. -/
def Rounding.search (r : Rounding) (point : Int) : Nat → Nat → Nat × Nat
  | 0, n => (n, 0)
  | tries + 1, n =>
    match r.best? point n with
    | some c => (n, c)
    | none => r.search point tries (n + 1)

/-- The list without its trailing zeros. -/
def dropZeros (digits : List Char) : List Char :=
  (digits.reverse.dropWhile (· == '0')).reverse

/-- The shortest decimal of the positive number `m * 2 ^ e`. -/
def shortest (f : BinaryFormat) (m : Nat) (e : Int) : DecimalDigits :=
  let point := decimalPoint m e
  let (n, c) := (roundingOf f m e).search point 17 1
  let digits := Nat.toDigits 10 c
  ⟨dropZeros digits, point + ((digits.length : Int) - n)⟩

end Binary

end QueryGateway
