import Mathlib.Data.Nat.Cast.Order.Field
import QueryGateway.Number.Text
import QueryGateway.Proofs.Number.Rounding

/-!
# The shortest decimal lies in the rounding interval

The rounding interval of a number holds the ratios that are rounded to it. On a decimal grid
that is finer than the interval one of the two neighbours of the number lies in it; for a double
the grid of seventeen digits is fine enough. So the search for the shortest decimal finds one,
and what it finds is rounded to the number.
-/

namespace QueryGateway

namespace Binary

open BinaryFormat

variable {f : BinaryFormat} {m : ℕ} {e : ℤ} {v : ℚ}

/-! ## Rounding intervals -/

/-- Whether a ratio lies in a rounding interval. -/
def Rounding.Contains (r : Rounding) (v : ℚ) : Prop :=
  let low : ℚ := (r.centre - r.below : ℕ) * 2 ^ r.exponent
  let high : ℚ := (r.centre + r.above : ℕ) * 2 ^ r.exponent
  if r.closed then low ≤ v ∧ v ≤ high else low < v ∧ v < high

/-- What lies in an interval is not beyond its ends, and at an end only if the interval has it. -/
theorem Rounding.Contains.bounds {r : Rounding} (h : r.Contains v) :
    (r.centre - r.below : ℕ) * 2 ^ r.exponent ≤ v ∧
      v ≤ (r.centre + r.above : ℕ) * 2 ^ r.exponent ∧
      (v = (r.centre - r.below : ℕ) * 2 ^ r.exponent ∨
        v = (r.centre + r.above : ℕ) * 2 ^ r.exponent → r.closed = true) := by
  rw [Contains] at h
  split at h
  · next hclosed => exact ⟨h.1, h.2, fun _ => hclosed⟩
  · refine ⟨h.1.le, h.2.le, ?_⟩
    rintro (rfl | rfl)
    · exact absurd h.1 (lt_irrefl _)
    · exact absurd h.2 (lt_irrefl _)

/-- The ends of the rounding interval of a number, in quarters of its last place. -/
structure Quarters (f : BinaryFormat) (m : ℕ) (e : ℤ) (v u : ℚ) (below : ℕ) : Prop where
  pos : 0 < u
  unit : 2 ^ e = 4 * u
  below_eq : below = 1 ∧ m = 2 ^ f.fractionBits ∧ f.leastExponent < e ∨
    below = 2 ∧ ¬ (m = 2 ^ f.fractionBits ∧ f.leastExponent < e)
  low : (4 * m - below) * u ≤ v
  high : v ≤ (4 * m + 2) * u
  even : v = (4 * m - below) * u ∨ v = (4 * m + 2) * u → m % 2 = 0

theorem exists_quarters (hm : 0 < m) (hv : (roundingOf f m e).Contains v) :
    ∃ u below, Quarters f m e v u below := by
  obtain ⟨hlow, hhigh, hends⟩ := hv.bounds
  simp only [roundingOf] at hlow hhigh hends
  have hbelow : ∃ below : ℕ, (if (m == 2 ^ f.fractionBits && decide (f.leastExponent < e)) = true
      then 1 else 2) = below ∧ (below = 1 ∧ m = 2 ^ f.fractionBits ∧ f.leastExponent < e ∨
      below = 2 ∧ ¬ (m = 2 ^ f.fractionBits ∧ f.leastExponent < e)) := by
    by_cases h : m = 2 ^ f.fractionBits ∧ f.leastExponent < e
    · exact ⟨1, if_pos (by simpa using h), .inl ⟨rfl, h⟩⟩
    · exact ⟨2, if_neg (by simpa using h), .inr ⟨rfl, h⟩⟩
  obtain ⟨below, hif, heq⟩ := hbelow
  rw [hif, Nat.cast_sub (by omega)] at hlow hends
  push_cast at hlow hhigh hends
  exact ⟨_, below, by positivity, two_zpow_eq_quarters e, heq, hlow, hhigh,
    fun h => by simpa using hends h⟩

section

variable {u : ℚ} {below : ℕ}

/-- The interval reaches at most half a last place down. -/
theorem Quarters.le_of_low (h : Quarters f m e v u below) : (4 * m - 2) * u ≤ v := by
  have hu := h.pos
  have hbelow : (below : ℚ) ≤ 2 := by
    rcases h.below_eq with ⟨rfl, -⟩ | ⟨rfl, -⟩ <;> norm_num
  calc (4 * m - 2) * u ≤ (4 * m - below) * u := by gcongr
    _ ≤ v := h.low

/-- Half of the last place. -/
theorem Quarters.half (h : Quarters f m e v u below) : (2 : ℚ) ^ (e - 1) = 2 * u := by
  have hnext := two_zpow_succ (e - 1)
  rw [sub_add_cancel, h.unit] at hnext
  linarith

/-- In the binade of the number its own coefficient is the nearest. -/
theorem Quarters.isNearest (h : Quarters f m e v u below) : IsNearest (v / 2 ^ e) m := by
  have hu := h.pos
  have hlow := h.le_of_low
  have hscaled (c : ℚ) : v / 2 ^ e = c ↔ v = 4 * c * u := by
    rw [h.unit, div_eq_iff (by positivity)]
    constructor <;> intro h <;> linarith
  have hhigh := h.high
  refine ⟨?_, ?_, fun hhalf => h.even ?_⟩
  · rw [h.unit, le_div_iff₀ (by positivity)]
    linarith
  · rw [h.unit, div_le_iff₀ (by positivity)]
    linarith
  · rcases hhalf with hhalf | hhalf <;> rw [hscaled] at hhalf
    · left
      have hend := h.low
      rcases h.below_eq with ⟨rfl, -⟩ | ⟨rfl, -⟩ <;> push_cast at hend ⊢ <;> linarith
    · right
      linarith

/-- Only the interval of the least number of a binade reaches into the binade below. -/
theorem Quarters.eq_power (h : Quarters f m e v u below) (hnumber : f.IsNumber m e)
    (hleast : e ≠ f.leastExponent) (hv : v < 2 ^ f.fractionBits * (4 * u)) :
    m = 2 ^ f.fractionBits ∧ below = 1 := by
  have hle := hnumber.leading.resolve_left hleast
  have hlt : f.leastExponent < e := lt_of_le_of_ne hnumber.least (Ne.symm hleast)
  rcases h.below_eq with ⟨rfl, hm, -⟩ | ⟨rfl, hne⟩
  · exact ⟨hm, rfl⟩
  · refine absurd ⟨le_antisymm ?_ hle, hlt⟩ hne
    have hlow := h.le_of_low
    have hquarters : (4 * m - 2) * u < 4 * 2 ^ f.fractionBits * u := by linarith
    have hm : (m : ℚ) < 2 ^ f.fractionBits + 1 := by
      have := lt_of_mul_lt_mul_right hquarters h.pos.le
      linarith
    exact Nat.lt_succ_iff.mp (by exact_mod_cast hm)

/-- In the binade below, the number is the carry of the greatest coefficient. -/
theorem Quarters.rounds_below (h : Quarters f (2 ^ f.fractionBits) e v u 1)
    (hlt : f.leastExponent < e) (hv : v < 2 ^ f.fractionBits * (4 * u)) :
    f.Rounds v (f.pack (2 ^ f.fractionBits) e) := by
  have hu := h.pos
  have hlow := h.low
  have hfirst : (1 : ℚ) ≤ 2 ^ f.fractionBits := one_le_pow₀ one_le_two
  push_cast at hlow
  refine ⟨e - 1, 2 ^ (f.fractionBits + 1), ⟨by omega, ?_, .inr ?_⟩, ⟨?_, ?_, ?_⟩, ?_⟩
  · rw [h.half, pow_succ]
    linarith
  · rw [h.half]
    nlinarith
  · rw [h.half, le_div_iff₀ (by positivity)]
    push_cast [pow_succ]
    linarith
  · rw [h.half, div_le_iff₀ (by positivity)]
    push_cast [pow_succ]
    linarith
  · intro _
    omega
  · obtain ⟨i, hi⟩ := Int.eq_ofNat_of_zero_le (show 0 ≤ e - 1 - f.leastExponent by omega)
    have hexp : (e - f.leastExponent).toNat = i + 1 := by omega
    rw [pack, pack, hi, hexp, Int.toNat_natCast]
    ring

end

/-- **The rounding interval.** What lies in the rounding interval of a number is rounded to it. -/
theorem rounds_of_contains (hnumber : f.IsNumber m e) (hm : 0 < m)
    (hv : (roundingOf f m e).Contains v) : f.Rounds v (f.pack m e) := by
  obtain ⟨u, below, h⟩ := exists_quarters hm hv
  have hu := h.pos
  have hhigh := h.high
  by_cases hbinade : e = f.leastExponent ∨ 2 ^ f.fractionBits * 2 ^ e ≤ v
  · have hlt : (m : ℚ) + 1 ≤ 2 ^ (f.fractionBits + 1) := by exact_mod_cast hnumber.lt
    refine ⟨e, m, ⟨hnumber.least, ?_, hbinade⟩, h.isNearest, rfl⟩
    calc v ≤ (4 * m + 2) * u := hhigh
      _ < (m + 1) * (4 * u) := by linarith
      _ ≤ 2 ^ (f.fractionBits + 1) * (4 * u) := by gcongr
      _ = 2 ^ (f.fractionBits + 1) * 2 ^ e := by rw [h.unit]
  · -- the number is a power of two, and the ratio is in the binade below it
    obtain ⟨hleast, hlower⟩ := not_or.mp hbinade
    rw [not_le, h.unit] at hlower
    obtain ⟨rfl, rfl⟩ := h.eq_power hnumber hleast hlower
    exact h.rounds_below (lt_of_le_of_ne hnumber.least (Ne.symm hleast)) hlower

/-! ## Decimal grids -/

/-- A power of ten as a number of units `2 ^ e` is a ratio of natural numbers. -/
theorem grid_step (e places : ℤ) :
    let p : ℕ := (if 0 ≤ e then 2 ^ e.toNat else 1) *
      (if places < 0 then 10 ^ (-places).toNat else 1)
    let q : ℕ := (if 0 ≤ e then 1 else 2 ^ (-e).toNat) *
      (if 0 ≤ places then 10 ^ places.toNat else 1)
    0 < p ∧ 0 < q ∧ (q / p : ℚ) * 2 ^ e = 10 ^ places := by
  intro p q
  have hp : 0 < p := by positivity
  have hq : 0 < q := by positivity
  refine ⟨hp, hq, ?_⟩
  have htwo : ((if 0 ≤ e then 2 ^ e.toNat else 1 : ℕ) : ℚ) =
      (if 0 ≤ e then 1 else 2 ^ (-e).toNat : ℕ) * 2 ^ e := by
    split
    · next h =>
      obtain ⟨i, rfl⟩ := Int.eq_ofNat_of_zero_le h
      simp
    · next h =>
      obtain ⟨i, hi⟩ := Int.eq_ofNat_of_zero_le (show 0 ≤ -e by omega)
      obtain rfl : e = -(i : ℤ) := by omega
      simp
  have hten : ((if 0 ≤ places then 10 ^ places.toNat else 1 : ℕ) : ℚ) =
      (if places < 0 then 10 ^ (-places).toNat else 1 : ℕ) * 10 ^ places := by
    by_cases h : 0 ≤ places
    · obtain ⟨i, rfl⟩ := Int.eq_ofNat_of_zero_le h
      simp
    · rw [if_neg h, if_pos (by omega)]
      obtain ⟨i, hi⟩ := Int.eq_ofNat_of_zero_le (show 0 ≤ -places by omega)
      obtain rfl : places = -(i : ℤ) := by omega
      simp
  have hpne : (p : ℚ) ≠ 0 := by exact_mod_cast hp.ne'
  rw [div_mul_eq_mul_div, div_eq_iff hpne]
  simp only [p, q, Nat.cast_mul]
  rw [htwo, hten]
  ring

/-- A point of a decimal grid passes the test if it lies in the interval. -/
theorem Rounding.holds_iff {r : Rounding} {p q : ℕ} {step : ℚ} (hp : 0 < p)
    (hstep : (q / p : ℚ) * 2 ^ r.exponent = step) (c : ℕ) :
    r.holds p q c = true ↔ r.Contains (c * step) := by
  have hpos : (0 : ℚ) < p := by exact_mod_cast hp
  have hpow : (0 : ℚ) < 2 ^ r.exponent := by positivity
  have hpoint : (c : ℚ) * step = (c * q : ℕ) / p * 2 ^ r.exponent := by
    rw [← hstep]
    push_cast
    ring
  have hle (n : ℕ) : (n : ℚ) * 2 ^ r.exponent ≤ c * step ↔ n * p ≤ c * q := by
    rw [hpoint, mul_le_mul_iff_left₀ hpow, le_div_iff₀ hpos]
    exact_mod_cast Iff.rfl
  have hge (n : ℕ) : (c : ℚ) * step ≤ n * 2 ^ r.exponent ↔ c * q ≤ n * p := by
    rw [hpoint, mul_le_mul_iff_left₀ hpow, div_le_iff₀ hpos]
    exact_mod_cast Iff.rfl
  rw [holds, Contains]
  simp only [lt_iff_not_ge, hle, hge]
  split <;> simp

/-- What is chosen on a grid passes the test; if nothing is, both neighbours of the number fail
it. -/
theorem Rounding.best?_spec (r : Rounding) (point : ℤ) (n : ℕ) :
    ∃ p q : ℕ, 0 < p ∧ 0 < q ∧ (q / p : ℚ) * 2 ^ r.exponent = 10 ^ (point - n) ∧
      (∀ c, r.best? point n = some c → r.holds p q c = true) ∧
      (r.best? point n = none → r.holds p q (r.centre * p / q) = false ∧
        r.holds p q (r.centre * p / q + 1) = false) := by
  obtain ⟨hp, hq, hstep⟩ := grid_step r.exponent (point - n)
  refine ⟨_, _, hp, hq, hstep, ?_⟩
  rw [best?]
  generalize (if 0 ≤ r.exponent then 2 ^ r.exponent.toNat else 1) *
    (if point - n < 0 then 10 ^ (-(point - n)).toNat else 1) = p
  generalize (if 0 ≤ r.exponent then 1 else 2 ^ (-r.exponent).toNat) *
    (if 0 ≤ point - n then 10 ^ (point - n).toNat else 1) = q
  cases hfirst : r.holds p q (r.centre * p / q) <;>
    cases hsecond : r.holds p q (r.centre * p / q + 1)
  · simp
  · simp [hsecond]
  · simp [hfirst]
  · dsimp only
    split <;> simp [hfirst, hsecond]

/-- What is chosen on a grid lies in the interval. -/
theorem Rounding.contains_of_best? {r : Rounding} {point : ℤ} {n c : ℕ}
    (h : r.best? point n = some c) : r.Contains (c * 10 ^ (point - n)) := by
  obtain ⟨p, q, hp, -, hstep, hsome, -⟩ := r.best?_spec point n
  exact (holds_iff hp hstep c).mp (hsome c h)

/-- What is not beyond the ends of an interval lies in it. -/
theorem Rounding.contains_of_lt {r : Rounding}
    (hlow : (r.centre - r.below : ℕ) * 2 ^ r.exponent < v)
    (hhigh : v < (r.centre + r.above : ℕ) * 2 ^ r.exponent) : r.Contains v := by
  rw [Contains]
  split
  · exact ⟨hlow.le, hhigh.le⟩
  · exact ⟨hlow, hhigh⟩

/-- On a grid that is finer than the interval is wide, there is something to choose. -/
theorem Rounding.exists_best? {r : Rounding} {point : ℤ} {n : ℕ} (hbelow : r.below ≤ r.centre)
    (hbelowPos : 0 < r.below) (habove : 0 < r.above)
    (hfine : (10 : ℚ) ^ (point - n) < (r.below + r.above) * 2 ^ r.exponent) :
    ∃ c, r.best? point n = some c := by
  obtain ⟨p, q, hp, hq, hstep, -, hnone⟩ := r.best?_spec point n
  by_contra hno
  obtain ⟨hfirst, hsecond⟩ := hnone (Option.eq_none_iff_forall_ne_some.mpr (not_exists.mp hno))
  rw [← Bool.not_eq_true, holds_iff hp hstep] at hfirst hsecond
  set step : ℚ := 10 ^ (point - n)
  set c := r.centre * p / q
  have hpow : (0 : ℚ) < 2 ^ r.exponent := by positivity
  have hpos : (0 : ℚ) < p := by exact_mod_cast hp
  -- the number lies between its neighbours on the grid
  have hpoint (d : ℕ) : (d : ℚ) * step = (d * q : ℕ) / p * 2 ^ r.exponent := by
    rw [← hstep]
    push_cast
    ring
  have hleft : (c : ℚ) * step ≤ r.centre * 2 ^ r.exponent := by
    rw [hpoint, mul_le_mul_iff_left₀ hpow, div_le_iff₀ hpos]
    exact_mod_cast Nat.div_mul_le_self _ _
  have hright : r.centre * 2 ^ r.exponent < ((c + 1 : ℕ) : ℚ) * step := by
    rw [hpoint, mul_lt_mul_iff_left₀ hpow, lt_div_iff₀ hpos]
    have hceil : r.centre * p < (c + 1) * q := by
      rw [← Nat.div_lt_iff_lt_mul hq]
      exact Nat.lt_succ_self _
    exact_mod_cast hceil
  -- so the interval would lie between them as well
  have hlowEnd : (r.centre - r.below : ℕ) * 2 ^ r.exponent < (r.centre : ℚ) * 2 ^ r.exponent := by
    rw [mul_lt_mul_iff_left₀ hpow]
    exact_mod_cast (by omega : r.centre - r.below < r.centre)
  have hhighEnd : (r.centre : ℚ) * 2 ^ r.exponent < (r.centre + r.above : ℕ) * 2 ^ r.exponent := by
    rw [mul_lt_mul_iff_left₀ hpow]
    exact_mod_cast (by omega : r.centre < r.centre + r.above)
  have hbeneath : (c : ℚ) * step ≤ (r.centre - r.below : ℕ) * 2 ^ r.exponent :=
    not_lt.mp fun h => hfirst (contains_of_lt h (hleft.trans_lt hhighEnd))
  have hbeyond : (r.centre + r.above : ℕ) * 2 ^ r.exponent ≤ ((c + 1 : ℕ) : ℚ) * step :=
    not_lt.mp fun h => hsecond (contains_of_lt (hlowEnd.trans hright) h)
  rw [Nat.cast_sub hbelow] at hbeneath
  push_cast at hbeyond
  linarith

/-- The search ends with a choice if there is one on some of the grids. -/
theorem Rounding.best?_search {r : Rounding} {point : ℤ} {tries n i : ℕ} (hi : i < tries)
    (h : ∃ c, r.best? point (n + i) = some c) :
    r.best? point (r.search point tries n).1 = some (r.search point tries n).2 := by
  induction tries generalizing n i with
  | zero => omega
  | succ tries ih =>
    rw [search]
    cases hbest : r.best? point n with
    | some c => exact hbest
    | none =>
      cases i with
      | zero =>
        obtain ⟨c, hc⟩ := h
        rw [Nat.add_zero, hbest] at hc
        cases hc
      | succ i =>
        rw [Nat.add_comm i, ← Nat.add_assoc] at h
        exact ih (Nat.lt_of_succ_lt_succ hi) h

/-! ## The decimal that is found -/

/-- A number has a digit. -/
theorem digitCount_pos (n : ℕ) : 0 < digitCount n :=
  List.length_pos_of_ne_nil Nat.toDigits_ne_nil

/-- A number is less than the power of ten with as many zeros as it has digits. -/
theorem lt_ten_pow_digitCount (n : ℕ) : n < 10 ^ digitCount n :=
  (Nat.length_toDigits_le_iff (by decide) (digitCount_pos n)).mp le_rfl

/-- A number is at least the power of ten with as many digits. -/
theorem ten_zpow_digitCount_le {n : ℕ} (hn : 0 < n) : (10 : ℚ) ^ ((digitCount n : ℤ) - 1) ≤ n := by
  obtain ⟨k, hk⟩ := Nat.exists_eq_succ_of_ne_zero (digitCount_pos n).ne'
  rw [hk, Nat.cast_succ, add_sub_cancel_right, zpow_natCast]
  rcases k.eq_zero_or_pos with rfl | hkpos
  · exact_mod_cast hn
  · have hlength : ¬ (Nat.toDigits 10 n).length ≤ k := by
      rw [← digitCount, hk]
      omega
    rw [Nat.length_toDigits_le_iff (by decide) hkpos] at hlength
    exact_mod_cast Nat.le_of_not_lt hlength

/-- The decimal point is found from the digits of the whole part of the number, moved up by 400
places. -/
theorem exists_decimalPoint_eq (hm : 0 < m) (he : 2 ^ (-e).toNat ≤ 10 ^ 400) :
    ∃ whole : ℕ, 0 < whole ∧ (whole : ℚ) ≤ m * 2 ^ e * (10 ^ 400 : ℕ) ∧
      decimalPoint m e = (digitCount whole : ℤ) - 400 := by
  have hpower (n : ℕ) : 0 < 10 ^ n := by positivity
  have hpos := hpower 400
  rw [decimalPoint]
  generalize 10 ^ 400 = scale at he hpos ⊢
  by_cases hcase : 0 ≤ e
  · refine ⟨m * scale * 2 ^ e.toNat, by positivity, ?_, by rw [if_pos hcase]⟩
    obtain ⟨i, rfl⟩ := Int.eq_ofNat_of_zero_le hcase
    push_cast [Int.toNat_natCast, zpow_natCast]
    linarith
  · refine ⟨m * scale / 2 ^ (-e).toNat, ?_, ?_, by rw [if_neg hcase]⟩
    · refine Nat.div_pos (he.trans ?_) (by positivity)
      exact Nat.le_mul_of_pos_left scale hm
    · obtain ⟨i, hi⟩ := Int.eq_ofNat_of_zero_le (show 0 ≤ -e by omega)
      obtain rfl : e = -(i : ℤ) := by omega
      rw [neg_neg, Int.toNat_natCast]
      calc ((m * scale / 2 ^ i : ℕ) : ℚ) ≤ (m * scale : ℕ) / (2 ^ i : ℕ) := Nat.cast_div_le
        _ = m * 2 ^ (-(i : ℤ)) * scale := by
          push_cast [zpow_natCast, zpow_neg]
          ring

/-- A number is at least the power of ten below its decimal point. -/
theorem ten_zpow_decimalPoint_le (hm : 0 < m) (he : 2 ^ (-e).toNat ≤ 10 ^ 400) :
    (10 : ℚ) ^ (decimalPoint m e - 1) ≤ m * 2 ^ e := by
  obtain ⟨whole, hwhole, hle, hpoint⟩ := exists_decimalPoint_eq hm he
  have hpower (n : ℕ) : 0 < 10 ^ n := by positivity
  obtain ⟨scale, hscale⟩ : ∃ scale : ℕ, scale = 10 ^ 400 := ⟨_, rfl⟩
  have hpos : (0 : ℚ) < scale := by exact_mod_cast hscale ▸ hpower 400
  have hsplit : (10 : ℚ) ^ (decimalPoint m e - 1) * scale = 10 ^ ((digitCount whole : ℤ) - 1) := by
    rw [hpoint, hscale, Nat.cast_pow, Nat.cast_ofNat, ← zpow_natCast, ← zpow_add₀ (by norm_num)]
    congr 1
    push_cast
    ring
  rw [← hscale] at hle
  rw [← mul_le_mul_iff_left₀ hpos, hsplit]
  exact (ten_zpow_digitCount_le hwhole).trans hle

/-- Ten is more than the third power of two. -/
theorem two_pow_le_ten_pow {k n : ℕ} (hk : k ≤ 3 * n) : 2 ^ k ≤ 10 ^ n := by
  calc 2 ^ k ≤ 2 ^ (3 * n) := Nat.pow_le_pow_right two_pos hk
    _ = 8 ^ n := Nat.pow_mul 2 3 n
    _ ≤ 10 ^ n := Nat.pow_le_pow_left (by decide) n

/-- On the grid of seventeen digits the rounding interval of a double is wider than a step. -/
theorem exists_best?_seventeen (hnumber : BinaryFormat.double.IsNumber m e) (hm : 0 < m) :
    ∃ c, (roundingOf .double m e).best? (decimalPoint m e) 17 = some c := by
  have hleast : -1074 ≤ e := hnumber.least
  have hscale : 2 ^ (-e).toNat ≤ 10 ^ 400 := two_pow_le_ten_pow (by omega)
  have hpoint := ten_zpow_decimalPoint_le hm hscale
  have hgrid : (10 : ℚ) ^ (decimalPoint m e - 17) * 10 ^ 16 = 10 ^ (decimalPoint m e - 1) := by
    rw [← zpow_natCast, ← zpow_add₀ (by norm_num)]
    congr 1
    push_cast
    ring
  have hplace := two_zpow_eq_quarters e
  have hunit : (0 : ℚ) < 2 ^ (e - 2) := by positivity
  have hlt : (m : ℚ) < 2 ^ 53 := by exact_mod_cast hnumber.lt
  by_cases hpower : m = 2 ^ 52 ∧ BinaryFormat.double.leastExponent < e
  · have hbelow : (roundingOf .double m e).below = 1 := if_pos (by simpa using hpower)
    have hm52 : (m : ℚ) = 2 ^ 52 := by exact_mod_cast hpower.1
    refine Rounding.exists_best? ?_ ?_ two_pos ?_
    · rw [hbelow]
      exact Nat.mul_pos four_pos hm
    · rw [hbelow]
      exact one_pos
    · rw [hbelow]
      change (10 : ℚ) ^ (decimalPoint m e - 17) < ((1 : ℕ) + (2 : ℕ)) * 2 ^ (e - 2)
      rw [hm52] at hpoint
      push_cast
      linarith
  · have hbelow : (roundingOf .double m e).below = 2 := if_neg (by simpa using hpower)
    have hplaces : (m : ℚ) * 2 ^ e < 2 ^ 53 * 2 ^ e := by gcongr
    refine Rounding.exists_best? ?_ ?_ two_pos ?_
    · rw [hbelow]
      change 2 ≤ 4 * m
      omega
    · rw [hbelow]
      exact two_pos
    · rw [hbelow]
      change (10 : ℚ) ^ (decimalPoint m e - 17) < ((2 : ℕ) + (2 : ℕ)) * 2 ^ (e - 2)
      push_cast
      linarith

/-- The lower end of a rounding interval is positive. -/
theorem Rounding.Contains.pos (hm : 0 < m) (h : (roundingOf f m e).Contains v) : 0 < v := by
  have hlow := h.bounds.1
  have hbelow : 0 < (roundingOf f m e).centre - (roundingOf f m e).below := by
    simp only [roundingOf]
    split <;> omega
  refine lt_of_lt_of_le ?_ hlow
  positivity

/-- **The shortest decimal.** The decimal that is found for a double lies in its rounding
interval. -/
theorem exists_shortest (hnumber : BinaryFormat.double.IsNumber m e) (hm : 0 < m) :
    ∃ (c : ℕ) (places : ℤ), 0 < c ∧ (roundingOf .double m e).Contains (c * 10 ^ places) ∧
      shortest .double m e =
        ⟨dropZeros (Nat.toDigits 10 c), (Nat.toDigits 10 c).length + places⟩ := by
  have hlast : 16 < 17 := by decide
  have hsome := Rounding.best?_search (n := 1) hlast (exists_best?_seventeen hnumber hm)
  have hcontains := Rounding.contains_of_best? hsome
  rw [shortest]
  generalize (roundingOf .double m e).search (decimalPoint m e) 17 1 = found at hcontains ⊢
  obtain ⟨n, c⟩ := found
  refine ⟨c, decimalPoint m e - n, ?_, hcontains, ?_⟩
  · by_contra hzero
    obtain rfl : c = 0 := by omega
    simpa using hcontains.pos hm
  · simp only [DecimalDigits.mk.injEq, true_and]
    ring

end Binary

end QueryGateway
