import Mathlib.Algebra.Order.Field.Power
import Mathlib.Data.Rat.Cast.Order
import Mathlib.Tactic.FieldSimp
import Mathlib.Tactic.GCongr
import Mathlib.Tactic.Linarith
import Mathlib.Tactic.Positivity
import Mathlib.Tactic.Ring
import QueryGateway.Number.Binary

/-!
# Rounding to the nearest number

A ratio lies in the binade of one exponent, where it is rounded to the nearest integer
coefficient, half-way cases to the even one. Coefficient and exponent are packed so that a
carry leads into the next binade. So rounding keeps the order of ratios, and it leaves the
numbers of the format as they are.
-/

namespace QueryGateway

namespace BinaryFormat

/-! ## Nearest integers -/

/-- Whether an integer is nearest to a ratio. Of two nearest ones the even one is meant. -/
structure IsNearest (x : ℚ) (k : ℕ) : Prop where
  le : (k : ℚ) - 1 / 2 ≤ x
  ge : x ≤ k + 1 / 2
  even : x = k - 1 / 2 ∨ x = k + 1 / 2 → k % 2 = 0

section

variable {x y : ℚ} {k l : ℕ}

/-- The nearest integers of ratios are ordered as the ratios are. -/
theorem IsNearest.mono (hx : IsNearest x k) (hy : IsNearest y l) (hxy : x ≤ y) : k ≤ l := by
  by_contra hlt
  have hstep : (l : ℚ) + 1 ≤ k := by exact_mod_cast Nat.lt_of_not_le hlt
  have hk := hx.le
  have hl := hy.ge
  -- both ratios lie half-way between two neighbours, which cannot both be even
  have hkl : (k : ℚ) = l + 1 := by linarith
  have hkEven : k % 2 = 0 := hx.even (.inl (by linarith))
  have hlEven : l % 2 = 0 := hy.even (.inr (by linarith))
  have hnext : k = l + 1 := by exact_mod_cast hkl
  omega

/-- An integer is nearest to itself. -/
theorem isNearest_natCast (k : ℕ) : IsNearest k k where
  le := by linarith
  ge := by linarith
  even h := by rcases h with h | h <;> linarith

/-- With at most half of the divisor left, the quotient is nearest. -/
theorem isNearest_quotient {q r den : ℕ} (hden : 0 < den) (hle : 2 * r ≤ den)
    (heven : 2 * r = den → q % 2 = 0) : IsNearest (q + r / den) q := by
  have hpos : (0 : ℚ) < den := by exact_mod_cast hden
  have hle : (2 * r : ℚ) ≤ den := by exact_mod_cast hle
  have hnonneg : 0 ≤ (r : ℚ) / den := by positivity
  have hhalf : (r : ℚ) / den ≤ 1 / 2 := (div_le_iff₀ hpos).mpr (by linarith)
  refine ⟨by linarith, by linarith, fun h => heven ?_⟩
  have hmid : (r : ℚ) / den = 1 / 2 := by rcases h with h | h <;> linarith
  have hmid : (2 * r : ℚ) = den := by
    rw [div_eq_iff hpos.ne'] at hmid
    linarith
  exact_mod_cast hmid

/-- With at least half of the divisor left, the next integer is nearest. -/
theorem isNearest_quotient_succ {q r den : ℕ} (hlt : r < den) (hle : den ≤ 2 * r)
    (hodd : 2 * r = den → q % 2 = 1) : IsNearest (q + r / den) (q + 1) := by
  have hpos : (0 : ℚ) < den := by exact_mod_cast (Nat.zero_le r).trans_lt hlt
  have hle : (den : ℚ) ≤ 2 * r := by exact_mod_cast hle
  have hone : (r : ℚ) / den < 1 := (div_lt_one hpos).mpr (by exact_mod_cast hlt)
  have hhalf : 1 / 2 ≤ (r : ℚ) / den := (le_div_iff₀ hpos).mpr (by linarith)
  refine ⟨by push_cast; linarith, by push_cast; linarith, fun h => ?_⟩
  push_cast at h
  have hmid : (r : ℚ) / den = 1 / 2 := by rcases h with h | h <;> linarith
  have hmid : (2 * r : ℚ) = den := by
    rw [div_eq_iff hpos.ne'] at hmid
    linarith
  have hq := hodd (by exact_mod_cast hmid)
  omega

/-- The rounded quotient is the integer nearest to the ratio. -/
theorem isNearest_roundDiv (num : ℕ) {den : ℕ} (hden : 0 < den) :
    IsNearest (num / den) (roundDiv num den) := by
  have hpos : (0 : ℚ) < den := by exact_mod_cast hden
  have hnum : (num : ℚ) = den * (num / den : ℕ) + (num % den : ℕ) := by
    exact_mod_cast (Nat.div_add_mod num den).symm
  have hrest : num % den < den := Nat.mod_lt num hden
  have hratio : (num : ℚ) / den = (num / den : ℕ) + (num % den : ℕ) / den := by
    rw [div_eq_iff hpos.ne', add_mul, div_mul_cancel₀ _ hpos.ne']
    linarith
  rw [roundDiv, hratio]
  generalize num / den = q at *
  generalize num % den = r at *
  by_cases hup : den < 2 * r ∨ 2 * r = den ∧ q % 2 = 1
  · have hcond : (den < 2 * r || (2 * r == den && q % 2 == 1)) = true := by simpa using hup
    simp only [hcond, if_true]
    exact isNearest_quotient_succ hrest (by omega) (by omega)
  · have hcond : (den < 2 * r || (2 * r == den && q % 2 == 1)) = false := by
      rw [Bool.eq_false_iff]
      simpa using hup
    simp only [hcond, Bool.false_eq_true, if_false]
    exact isNearest_quotient hden (by omega) (by omega)

end

/-! ## The binade of a ratio -/

/-- Whether the last place of a ratio in the format stands for `2 ^ e`. -/
structure IsPlace (f : BinaryFormat) (v : ℚ) (e : ℤ) : Prop where
  least : f.leastExponent ≤ e
  upper : v < 2 ^ (f.fractionBits + 1) * 2 ^ e
  lower : e = f.leastExponent ∨ 2 ^ f.fractionBits * 2 ^ e ≤ v

/-- The ratio divided by a power of two is what scaling says. -/
theorem scale_eq (num : ℕ) {den : ℕ} (hden : 0 < den) (e : ℤ) :
    0 < (scale num den e).2 ∧
      ((scale num den e).1 : ℚ) / (scale num den e).2 = (num / den : ℚ) / 2 ^ e := by
  have hpos : (0 : ℚ) < den := by exact_mod_cast hden
  rw [scale]
  by_cases he : 0 ≤ e
  · rw [if_pos he]
    obtain ⟨n, rfl⟩ := Int.eq_ofNat_of_zero_le he
    refine ⟨by positivity, ?_⟩
    push_cast [Int.toNat_natCast, zpow_natCast]
    field_simp
  · rw [if_neg he]
    obtain ⟨n, hn⟩ := Int.eq_ofNat_of_zero_le (show 0 ≤ -e by omega)
    obtain rfl : e = -(n : ℤ) := by omega
    refine ⟨hden, ?_⟩
    simp only [neg_neg, Int.toNat_natCast, Nat.cast_mul, Nat.cast_pow, Nat.cast_ofNat, zpow_neg,
      zpow_natCast]
    field_simp

/-- The logarithms of the parts of a ratio tell its binade up to the next one. -/
theorem binade_of_log2 {num den : ℕ} (hnum : 0 < num) (hden : 0 < den) (places : ℕ) {e : ℤ}
    (he : e = (num.log2 : ℤ) - den.log2 - (places + 1)) :
    2 ^ places * 2 ^ e ≤ (num / den : ℚ) ∧ (num / den : ℚ) < 2 ^ (places + 2) * 2 ^ e := by
  have hdenPos : (0 : ℚ) < den := by exact_mod_cast hden
  have hnumLow : (2 : ℚ) ^ num.log2 ≤ num := by exact_mod_cast Nat.log2_self_le hnum.ne'
  have hnumHigh : (num : ℚ) < 2 ^ (num.log2 + 1) := by exact_mod_cast Nat.lt_log2_self
  have hdenLow : (2 : ℚ) ^ den.log2 ≤ den := by exact_mod_cast Nat.log2_self_le hden.ne'
  have hdenHigh : (den : ℚ) < 2 ^ (den.log2 + 1) := by exact_mod_cast Nat.lt_log2_self
  have hpow : (0 : ℚ) < 2 ^ e := by positivity
  have hexp : (2 : ℚ) ^ num.log2 = 2 ^ (places + 1) * 2 ^ e * 2 ^ den.log2 := by
    rw [← zpow_natCast, ← zpow_natCast, ← zpow_natCast, ← zpow_add₀ two_ne_zero,
      ← zpow_add₀ two_ne_zero]
    congr 1
    push_cast
    omega
  rw [le_div_iff₀ hdenPos, div_lt_iff₀ hdenPos]
  constructor
  · calc 2 ^ places * 2 ^ e * (den : ℚ) ≤ 2 ^ places * 2 ^ e * 2 ^ (den.log2 + 1) := by gcongr
      _ = 2 ^ num.log2 := by
        rw [hexp]
        ring
      _ ≤ num := hnumLow
  · calc (num : ℚ) < 2 ^ (num.log2 + 1) := hnumHigh
      _ = 2 ^ (places + 2) * 2 ^ e * 2 ^ den.log2 := by
        rw [pow_succ, hexp]
        ring
      _ ≤ 2 ^ (places + 2) * 2 ^ e * den := by gcongr

variable {f : BinaryFormat} {v w : ℚ} {e : ℤ} {m k l : ℕ}

/-- A power of two twice as large as another. -/
theorem two_zpow_succ (e : ℤ) : (2 : ℚ) ^ (e + 1) = 2 * 2 ^ e := by
  rw [zpow_add₀ two_ne_zero, zpow_one, mul_comm]

/-- A power of two four times as large as another. -/
theorem two_zpow_eq_quarters (e : ℤ) : (2 : ℚ) ^ e = 4 * 2 ^ (e - 2) := by
  rw [zpow_sub₀ two_ne_zero]
  norm_num
  ring

/-- A ratio in the binade of an exponent has its last place there, or at the least exponent. -/
theorem isPlace_max (hlower : 2 ^ f.fractionBits * 2 ^ e ≤ v)
    (hupper : v < 2 ^ (f.fractionBits + 1) * 2 ^ e) : f.IsPlace v (max e f.leastExponent) := by
  refine ⟨le_max_right _ _, ?_, ?_⟩
  · have hmono : (2 : ℚ) ^ e ≤ 2 ^ max e f.leastExponent :=
      zpow_le_zpow_right₀ one_le_two (le_max_left _ _)
    calc v < 2 ^ (f.fractionBits + 1) * 2 ^ e := hupper
      _ ≤ 2 ^ (f.fractionBits + 1) * 2 ^ max e f.leastExponent := by gcongr
  · rcases le_total e f.leastExponent with h | h
    · exact .inl (max_eq_right h)
    · rw [max_eq_left h]
      exact .inr hlower

/-- The last place of a positive ratio. -/
theorem isPlace_placeOf {num den : ℕ} (hnum : 0 < num) (hden : 0 < den) :
    f.IsPlace (num / den) (f.placeOf num den) := by
  set e : ℤ := (num.log2 : ℤ) - den.log2 - (f.fractionBits + 1) with he
  obtain ⟨hlow, hhigh⟩ := binade_of_log2 hnum hden f.fractionBits he
  obtain ⟨hd, hscale⟩ := scale_eq num hden e
  have hpow : (0 : ℚ) < 2 ^ e := by positivity
  rw [placeOf, ← he]
  generalize scale num den e = ratio at hd hscale ⊢
  obtain ⟨n, d⟩ := ratio
  change f.IsPlace _ (max (if 2 ^ (f.fractionBits + 1) ≤ n / d then e + 1 else e) _)
  have hdpos : (0 : ℚ) < d := by exact_mod_cast hd
  have hcase : 2 ^ (f.fractionBits + 1) ≤ n / d ↔
      2 ^ (f.fractionBits + 1) * 2 ^ e ≤ (num / den : ℚ) := by
    rw [Nat.le_div_iff_mul_le hd, ← le_div_iff₀ hpow, ← hscale, le_div_iff₀ hdpos]
    exact_mod_cast Iff.rfl
  split
  · next h =>
    apply isPlace_max
    · calc 2 ^ f.fractionBits * 2 ^ (e + 1) = 2 ^ (f.fractionBits + 1) * (2 : ℚ) ^ e := by
            rw [two_zpow_succ]
            ring
        _ ≤ num / den := hcase.mp h
    · calc (num / den : ℚ) < 2 ^ (f.fractionBits + 2) * 2 ^ e := hhigh
        _ = 2 ^ (f.fractionBits + 1) * 2 ^ (e + 1) := by
          rw [two_zpow_succ]
          ring
  · next h => exact isPlace_max hlow (not_le.mp fun hle => h (hcase.mpr hle))

/-! ## Rounding -/

/-- The bit pattern of a coefficient and an exponent. A coefficient that is one too large is
the least one of the next binade. -/
def pack (f : BinaryFormat) (m : ℕ) (e : ℤ) : ℕ :=
  (e - f.leastExponent).toNat * 2 ^ f.fractionBits + m

/-- Whether a bit pattern is what a ratio is rounded to, in a format without a largest number. -/
def Rounds (f : BinaryFormat) (v : ℚ) (bits : ℕ) : Prop :=
  ∃ e k, f.IsPlace v e ∧ IsNearest (v / 2 ^ e) k ∧ bits = f.pack k e

/-- The coefficient of a rounded ratio is at most one too large. -/
theorem IsPlace.le_of_isNearest (he : f.IsPlace v e) (hk : IsNearest (v / 2 ^ e) k) :
    k ≤ 2 ^ (f.fractionBits + 1) := by
  have hpow : (0 : ℚ) < 2 ^ e := by positivity
  have hle : v / 2 ^ e ≤ (2 ^ (f.fractionBits + 1) : ℕ) := by
    push_cast
    exact (div_le_iff₀ hpow).mpr he.upper.le
  exact hk.mono (isNearest_natCast _) hle

/-- Above the least place the coefficient of a rounded ratio has the leading bit. -/
theorem IsPlace.ge_of_isNearest (he : f.IsPlace v e) (hk : IsNearest (v / 2 ^ e) k)
    (hleast : e ≠ f.leastExponent) : 2 ^ f.fractionBits ≤ k := by
  have hpow : (0 : ℚ) < 2 ^ e := by positivity
  have hge : ((2 ^ f.fractionBits : ℕ) : ℚ) ≤ v / 2 ^ e := by
    push_cast
    exact (le_div_iff₀ hpow).mpr (he.lower.resolve_left hleast)
  exact (isNearest_natCast _).mono hk hge

/-- A greater ratio has no smaller place. -/
theorem IsPlace.mono {e' : ℤ} (he : f.IsPlace v e) (he' : f.IsPlace w e') (hvw : v ≤ w) :
    e ≤ e' := by
  by_contra hlt
  have hleast : e ≠ f.leastExponent := by
    have := he'.least
    omega
  have hstep : (2 : ℚ) ^ (e' + 1) ≤ 2 ^ e := zpow_le_zpow_right₀ one_le_two (by omega)
  have hlow := he.lower.resolve_left hleast
  have hhigh := he'.upper
  have hsame : 2 ^ (f.fractionBits + 1) * (2 : ℚ) ^ e' = 2 ^ f.fractionBits * 2 ^ (e' + 1) := by
    rw [two_zpow_succ]
    ring
  have hle : 2 ^ f.fractionBits * (2 : ℚ) ^ (e' + 1) ≤ 2 ^ f.fractionBits * 2 ^ e := by gcongr
  linarith

/-- **Rounding keeps the order.** A greater ratio is not rounded to a smaller number. -/
theorem Rounds.mono {bits bits' : ℕ} (hv : f.Rounds v bits) (hw : f.Rounds w bits')
    (hvw : v ≤ w) : bits ≤ bits' := by
  obtain ⟨e, k, he, hk, rfl⟩ := hv
  obtain ⟨e', l, he', hl, rfl⟩ := hw
  have hpow : (0 : ℚ) < 2 ^ e := by positivity
  rw [pack, pack]
  rcases (he.mono he' hvw).eq_or_lt with rfl | hlt
  · have hkl : k ≤ l := hk.mono hl (by gcongr)
    omega
  · have hleast := he.least
    have hkmax : k ≤ 2 ^ (f.fractionBits + 1) := he.le_of_isNearest hk
    have hlmin : 2 ^ f.fractionBits ≤ l := he'.ge_of_isNearest hl (by omega)
    obtain ⟨i, hi⟩ := Int.eq_ofNat_of_zero_le (show 0 ≤ e - f.leastExponent by omega)
    obtain ⟨j, hj⟩ := Int.eq_ofNat_of_zero_le (show 0 ≤ e' - e - 1 by omega)
    have hexp : (e' - f.leastExponent).toNat = i + j + 1 := by omega
    rw [hi, Int.toNat_natCast, hexp]
    -- a binade further, the packed exponent makes up for the coefficient
    calc i * 2 ^ f.fractionBits + k
        ≤ i * 2 ^ f.fractionBits + 2 ^ (f.fractionBits + 1) := by omega
      _ = (i + 1) * 2 ^ f.fractionBits + 2 ^ f.fractionBits := by ring
      _ ≤ (i + j + 1) * 2 ^ f.fractionBits + 2 ^ f.fractionBits := by gcongr; omega
      _ ≤ (i + j + 1) * 2 ^ f.fractionBits + l := by omega

/-- A ratio is rounded to one number only. -/
theorem Rounds.unique {bits bits' : ℕ} (h : f.Rounds v bits) (h' : f.Rounds v bits') :
    bits = bits' :=
  le_antisymm (h.mono h' le_rfl) (h'.mono h le_rfl)

/-- A ratio is rounded, to infinity if the number would be too large. -/
theorem exists_rounds (num : ℕ) {den : ℕ} (hden : 0 < den) :
    ∃ bits, f.Rounds (num / den) bits ∧ f.roundRatio num den = min f.infinityBits bits := by
  rw [roundRatio]
  rcases num.eq_zero_or_pos with rfl | hnum
  · have hplace : f.IsPlace (0 : ℚ) f.leastExponent := ⟨le_rfl, by positivity, .inl rfl⟩
    refine ⟨0, ⟨f.leastExponent, 0, ?_, ?_, by simp [pack]⟩, by simp⟩
    · simpa using hplace
    · simpa using isNearest_natCast 0
  · have hne : (num == 0) = false := by simpa using hnum.ne'
    obtain ⟨hd, hscale⟩ := scale_eq num hden (f.placeOf num den)
    rw [hne]
    refine ⟨_, ⟨f.placeOf num den, _, isPlace_placeOf hnum hden, ?_, rfl⟩, rfl⟩
    rw [← hscale]
    exact isNearest_roundDiv _ hd

/-- What a ratio is rounded to, if it is not too large. -/
theorem Rounds.roundRatio_eq {num den bits : ℕ} (h : f.Rounds (num / den) bits) (hden : 0 < den) :
    f.roundRatio num den = min f.infinityBits bits := by
  obtain ⟨bits', hbits', heq⟩ := exists_rounds (f := f) num hden
  rw [heq, h.unique hbits']

/-! ## The numbers of a format -/

/-- Whether a coefficient and an exponent are those of a number. -/
structure IsNumber (f : BinaryFormat) (m : ℕ) (e : ℤ) : Prop where
  least : f.leastExponent ≤ e
  lt : m < 2 ^ (f.fractionBits + 1)
  leading : e = f.leastExponent ∨ 2 ^ f.fractionBits ≤ m

/-- The place of a number is its exponent. -/
theorem IsNumber.isPlace (h : f.IsNumber m e) : f.IsPlace (m * 2 ^ e) e where
  least := h.least
  upper := by
    have hlt : (m : ℚ) < 2 ^ (f.fractionBits + 1) := by exact_mod_cast h.lt
    gcongr
  lower := h.leading.imp_right fun hle => by
    have hle : (2 : ℚ) ^ f.fractionBits ≤ m := by exact_mod_cast hle
    gcongr

/-- A number is rounded to itself. -/
theorem IsNumber.rounds (h : f.IsNumber m e) : f.Rounds (m * 2 ^ e) (f.pack m e) := by
  refine ⟨e, m, h.isPlace, ?_, rfl⟩
  rw [mul_div_cancel_right₀ _ (by positivity : (2 : ℚ) ^ e ≠ 0)]
  exact isNearest_natCast m

/-- Every bit pattern is that of a number. -/
theorem exists_isNumber (f : BinaryFormat) (bits : ℕ) :
    ∃ m e, f.IsNumber m e ∧ f.pack m e = bits := by
  have hsize : 0 < 2 ^ f.fractionBits := by positivity
  have hdiv := Nat.div_add_mod bits (2 ^ f.fractionBits)
  have hlt := Nat.mod_lt bits hsize
  generalize bits / 2 ^ f.fractionBits = field at hdiv
  generalize bits % 2 ^ f.fractionBits = fraction at hdiv hlt
  rw [mul_comm] at hdiv
  have hdouble : 2 ^ (f.fractionBits + 1) = 2 * 2 ^ f.fractionBits := by ring
  cases field with
  | zero =>
    refine ⟨fraction, f.leastExponent, ⟨le_rfl, by omega, .inl rfl⟩, ?_⟩
    simpa [pack] using hdiv
  | succ i =>
    refine ⟨2 ^ f.fractionBits + fraction, f.leastExponent + i, ⟨by omega, by omega, ?_⟩, ?_⟩
    · exact .inr (Nat.le_add_right _ _)
    · rw [pack, add_sub_cancel_left, Int.toNat_natCast, ← hdiv]
      ring

/-- Every bit pattern below that of infinity is less than the weight of the sign. -/
theorem infinityBits_lt_signWeight (f : BinaryFormat) : f.infinityBits < f.signWeight := by
  have hfraction : 0 < 2 ^ f.fractionBits := by positivity
  have hexponent : 0 < 2 ^ f.exponentBits := by positivity
  rw [infinityBits, signWeight, pow_add, mul_comm (2 ^ f.fractionBits)]
  exact Nat.mul_lt_mul_of_pos_right (by omega) hfraction

end BinaryFormat

namespace Binary

variable {f : BinaryFormat} {negative : Bool} {bits m : ℕ} {e : ℤ}

/-- A number has the magnitude that it is made of. -/
theorem magnitude_ofMagnitude (hbits : bits < f.signWeight) :
    (ofMagnitude negative bits : Binary f).magnitude = bits := by
  cases negative <;> simp [ofMagnitude, magnitude, Nat.mod_eq_of_lt hbits]

/-- A number has the sign that it is made of. -/
theorem isNegative_ofMagnitude (hbits : bits < f.signWeight) :
    (ofMagnitude negative bits : Binary f).isNegative = negative := by
  cases negative <;> simp [ofMagnitude, isNegative, hbits]

/-- The value of a finite number. -/
theorem value_ofMagnitude (h : f.IsNumber m e) (hfinite : f.pack m e < f.infinityBits) :
    (ofMagnitude negative (f.pack m e) : Binary f).value = .finite negative m e := by
  have hsign := hfinite.trans f.infinityBits_lt_signWeight
  have hsize : 0 < 2 ^ f.fractionBits := by positivity
  have hdouble : 2 ^ (f.fractionBits + 1) = 2 * 2 ^ f.fractionBits := by ring
  have hlt := h.lt
  rw [value, magnitude_ofMagnitude hsign, isNegative_ofMagnitude hsign, if_neg (by omega),
    if_neg (by simpa using hfinite.ne)]
  by_cases hleading : 2 ^ f.fractionBits ≤ m
  · obtain ⟨i, hi⟩ := Int.eq_ofNat_of_zero_le (show 0 ≤ e - f.leastExponent by
      have := h.least
      omega)
    obtain ⟨r, rfl⟩ := Nat.exists_eq_add_of_le hleading
    have hpack : f.pack (2 ^ f.fractionBits + r) e = r + 2 ^ f.fractionBits * (i + 1) := by
      rw [BinaryFormat.pack, hi, Int.toNat_natCast]
      ring
    have hr : r < 2 ^ f.fractionBits := by omega
    rw [hpack, Nat.add_mul_div_left _ _ hsize, Nat.div_eq_of_lt hr, Nat.add_mul_mod_self_left,
      Nat.mod_eq_of_lt hr, if_neg (by simp)]
    congr 1
    omega
  · obtain rfl := h.leading.resolve_right hleading
    have hm : m < 2 ^ f.fractionBits := by omega
    have hpack : f.pack m f.leastExponent = m := by simp [BinaryFormat.pack]
    rw [hpack, Nat.div_eq_of_lt hm, Nat.mod_eq_of_lt hm]
    rfl

/-- An integer that a finite number is equal to. -/
theorem eq_of_toInt? (h : f.IsNumber m e) (hfinite : f.pack m e < f.infinityBits) {z : ℤ}
    (hz : (ofMagnitude negative (f.pack m e) : Binary f).toInt? = some z) :
    (z.natAbs : ℚ) = m * 2 ^ e := by
  rw [toInt?, value_ofMagnitude h hfinite] at hz
  obtain ⟨_, hsome, rfl⟩ := Option.map_eq_some_iff.mp hz
  obtain ⟨n, hn, hcast⟩ := Option.bind_eq_some_iff.mp hsome
  obtain rfl := Option.some.inj hcast
  have hnatAbs : (if negative = true then -(n : ℤ) else n).natAbs = n := by
    cases negative <;> simp
  rw [hnatAbs]
  split at hn
  · next he =>
    obtain ⟨i, rfl⟩ := Int.eq_ofNat_of_zero_le he
    rw [Int.toNat_natCast] at hn
    rw [← Option.some.inj hn]
    push_cast [zpow_natCast]
    rfl
  · next he =>
    obtain ⟨i, hi⟩ := Int.eq_ofNat_of_zero_le (show 0 ≤ -e by omega)
    obtain rfl : e = -(i : ℤ) := by omega
    rw [neg_neg, Int.toNat_natCast] at hn
    split at hn
    · next hmod =>
      obtain ⟨k, hk⟩ := Nat.dvd_of_mod_eq_zero (beq_iff_eq.mp hmod)
      rw [hk, Nat.mul_div_cancel_left k (by positivity)] at hn
      rw [← Option.some.inj hn, hk, zpow_neg, zpow_natCast]
      push_cast
      field_simp
    · cases hn

end Binary

end QueryGateway
