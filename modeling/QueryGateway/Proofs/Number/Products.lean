import QueryGateway.Proofs.Number.Rounding

/-!
# Products of numbers

The product of two numbers is rounded as the product of their values is. A number is at least as
large as every number below the ratio that was rounded to it.
-/

namespace QueryGateway

namespace Binary

open BinaryFormat

variable {f : BinaryFormat} {m n : ℕ} {e d : ℤ} {v : ℚ}

/-- A bit pattern is that of one coefficient and one exponent only. -/
theorem eq_of_pack_eq (h : f.IsNumber m e) (h' : f.IsNumber n d)
    (hfinite : f.pack m e < f.infinityBits) (hpack : f.pack m e = f.pack n d) :
    m = n ∧ e = d := by
  have hvalue : (ofMagnitude false (f.pack m e) : Binary f).value = .finite false m e :=
    value_ofMagnitude h hfinite
  rw [hpack] at hvalue hfinite
  rw [value_ofMagnitude h' hfinite] at hvalue
  obtain ⟨-, rfl, rfl⟩ := Value.finite.inj hvalue
  exact ⟨rfl, rfl⟩

/-- A ratio is not rounded below a number that it is not below. -/
theorem le_of_rounds (h : f.IsNumber m e) (h' : f.IsNumber n d)
    (hfinite : f.pack n d < f.infinityBits)
    (hle : m * 2 ^ e ≤ v) (hv : f.Rounds v (f.pack n d)) : (m : ℚ) * 2 ^ e ≤ n * 2 ^ d := by
  by_contra hlt
  have hpack : f.pack n d = f.pack m e :=
    le_antisymm (h'.rounds.mono h.rounds (not_le.mp hlt).le) (h.rounds.mono hv hle)
  obtain ⟨rfl, rfl⟩ := eq_of_pack_eq h' h hfinite hpack
  exact hlt le_rfl

/-- The magnitude of a number is the ratio that it stands for. -/
theorem ratio_ofMagnitude (h : f.IsNumber m e) (hfinite : f.pack m e < f.infinityBits)
    (negative : Bool) :
    let r := (ofMagnitude negative (f.pack m e) : Binary f).ratio
    0 < r.2 ∧ (r.1 / r.2 : ℚ) = m * 2 ^ e := by
  simp only [ratio, value_ofMagnitude h hfinite]
  by_cases he : 0 ≤ e
  · obtain ⟨i, rfl⟩ := Int.eq_ofNat_of_zero_le he
    rw [if_pos he]
    refine ⟨one_pos, ?_⟩
    push_cast [Int.toNat_natCast, zpow_natCast]
    ring
  · obtain ⟨i, hi⟩ := Int.eq_ofNat_of_zero_le (show 0 ≤ -e by omega)
    obtain rfl : e = -(i : ℤ) := by omega
    rw [if_neg he, neg_neg, Int.toNat_natCast]
    refine ⟨by positivity, ?_⟩
    push_cast [zpow_neg, zpow_natCast]
    ring

/-- The product of two numbers is rounded as the product of their values is. -/
theorem exists_mul_eq (h : f.IsNumber m e) (h' : f.IsNumber n d)
    (hfinite : f.pack m e < f.infinityBits) (hfinite' : f.pack n d < f.infinityBits) :
    ∃ bits, f.Rounds (m * 2 ^ e * (n * 2 ^ d)) bits ∧
      (ofMagnitude false (f.pack m e) : Binary f).mul (ofMagnitude false (f.pack n d)) =
        ofMagnitude false (min f.infinityBits bits) := by
  obtain ⟨hpos, hratio⟩ := ratio_ofMagnitude h hfinite false
  obtain ⟨hpos', hratio'⟩ := ratio_ofMagnitude h' hfinite' false
  rw [mul]
  generalize (ofMagnitude false (f.pack m e) : Binary f).ratio = r at *
  generalize (ofMagnitude false (f.pack n d) : Binary f).ratio = r' at *
  obtain ⟨bits, hbits, hround⟩ := exists_rounds (f := f) (r.1 * r'.1) (Nat.mul_pos hpos hpos')
  refine ⟨bits, ?_, ?_⟩
  · rw [← hratio, ← hratio', div_mul_div_comm]
    exact_mod_cast hbits
  · exact congrArg (ofMagnitude false) hround

/-- A natural number is rounded. -/
theorem exists_ofRatio_eq (f : BinaryFormat) (n : ℕ) :
    ∃ bits, f.Rounds n bits ∧ ∀ negative, (ofRatio negative n 1 : Binary f) =
      ofMagnitude negative (min f.infinityBits bits) := by
  obtain ⟨bits, hbits, hround⟩ := exists_rounds (f := f) n one_pos
  refine ⟨bits, ?_, fun negative => by rw [ofRatio, hround]⟩
  simpa using hbits

/-- What a natural number is rounded to is found by computing it. -/
theorem rounds_of_roundRatio {bits : ℕ} (h : f.roundRatio n 1 = bits)
    (hfinite : bits < f.infinityBits) : f.Rounds n bits := by
  obtain ⟨bits', hbits', hround⟩ := exists_rounds (f := f) n one_pos
  rw [h] at hround
  obtain rfl : bits = bits' := by omega
  simpa using hbits'

/-- A number is finite if its magnitude is. -/
theorem isFinite_ofMagnitude {bits : ℕ} (hbits : bits ≤ f.infinityBits) (negative : Bool) :
    (ofMagnitude negative bits : Binary f).isFinite = true ↔ bits < f.infinityBits := by
  rw [isFinite, magnitude_ofMagnitude (hbits.trans_lt f.infinityBits_lt_signWeight),
    decide_eq_true_iff]

/-- A number takes on another sign. -/
theorem negate_ofMagnitude {bits : ℕ} (hbits : bits ≤ f.infinityBits) (negative : Bool) :
    (ofMagnitude negative bits : Binary f).negate = ofMagnitude (!negative) bits := by
  have hsign := hbits.trans_lt f.infinityBits_lt_signWeight
  rw [negate, magnitude_ofMagnitude hsign, isNegative_ofMagnitude hsign]

end Binary

end QueryGateway
