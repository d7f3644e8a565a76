import QueryGateway.Path.Typed
import QueryGateway.Proofs.Json.Integers

/-!
# Integers at an expression

A node may denote an integer as a number or as a text. Where 64 bits do not hold it, reading
falls back to the nearest double, and the integers that are rounded to the ends of the 64-bit
range are taken for these ends. The 32-bit reading is exact; the 64-bit reading is exact but for
the integers that lie just beyond the range.
-/

namespace QueryGateway

namespace Path

open Binary BinaryFormat

/-! ## Doubles at the ends of the 64-bit range -/

section

variable {negative : Bool} {bits n : ℕ} {v : ℚ} {z : ℤ}

/-- The bit pattern of the double `2 ^ 63`. -/
def edgeBits : ℕ := 0x43E0000000000000

/-- The double at either end stands for the integer there. -/
theorem integerOfReal?_edge (negative : Bool) :
    integerOfReal? (.ofMagnitude negative edgeBits) =
      some (if negative then leastLong else greatestLong) := by
  cases negative <;> decide

/-- Half the distance to the next double beyond the end is rounded to the end. -/
theorem eq_edgeBits (hlow : 2 ^ 63 ≤ n) (hhigh : n ≤ 2 ^ 63 + 1024)
    (h : BinaryFormat.double.Rounds n bits) : bits = edgeBits := by
  have hfirst : BinaryFormat.double.Rounds (2 ^ 63 : ℕ) edgeBits :=
    rounds_of_roundRatio (by decide) (by decide)
  have hlast : BinaryFormat.double.Rounds (2 ^ 63 + 1024 : ℕ) edgeBits :=
    rounds_of_roundRatio (by decide) (by decide)
  exact le_antisymm (h.mono hlast (by exact_mod_cast hhigh))
    (hfirst.mono h (by exact_mod_cast hlow))

/-- From there on ratios are rounded beyond the end. -/
theorem edgeBits_lt (hlow : 2 ^ 63 + 1025 ≤ v) (h : BinaryFormat.double.Rounds v bits) :
    edgeBits < bits := by
  have hnext : BinaryFormat.double.Rounds (2 ^ 63 + 1025 : ℕ) (edgeBits + 1) :=
    rounds_of_roundRatio (by decide) (by decide)
  exact Nat.lt_of_succ_le (hnext.mono h (by exact_mod_cast hlow))

/-- A double beyond the end stands for no 64-bit integer. -/
theorem integerOfReal?_beyond (hlow : edgeBits < bits)
    (hhigh : bits ≤ BinaryFormat.double.infinityBits) :
    integerOfReal? (.ofMagnitude negative bits) = none := by
  rcases hhigh.eq_or_lt with rfl | hfinite
  · cases negative <;> decide
  · obtain ⟨m, e, hnumber, rfl⟩ := exists_isNumber .double bits
    rw [integerOfReal?]
    cases hz : (ofMagnitude negative (BinaryFormat.double.pack m e) : Binary64).toInt? with
    | none => rfl
    | some z =>
      have hvalue := eq_of_toInt? hnumber hfinite hz
      have hlarge : 2 ^ 63 < z.natAbs := by
        by_contra hle
        have hedge : BinaryFormat.double.Rounds (2 ^ 63 : ℕ) edgeBits :=
          rounds_of_roundRatio (by decide) (by decide)
        have hsmall := hnumber.rounds.mono hedge (by
          rw [← hvalue]
          exact_mod_cast not_lt.mp hle)
        omega
      have hout : ¬ (leastLong ≤ z ∧ z ≤ greatestLong + 1) := by
        rw [leastLong, greatestLong]
        omega
      simpa using hout

/-! ## Reading the text of an integer -/

/-- The nearest 64-bit integer. -/
def clampLong (z : ℤ) : ℤ :=
  max leastLong (min z greatestLong)

/-- Whether the double nearest to an integer is not beyond the ends of the 64-bit range. -/
def InReach (z : ℤ) : Prop :=
  leastLong - 1024 ≤ z ∧ z ≤ greatestLong + 1025

instance (z : ℤ) : Decidable (InReach z) :=
  inferInstanceAs (Decidable (_ ∧ _))

/-- What is rounded as an integer beyond 64 bits is, stands for the end of their range or for
no integer. -/
theorem integerOfReal?_of_rounds (hz : z < leastLong ∨ greatestLong < z)
    (h : BinaryFormat.double.Rounds z.natAbs bits) :
    integerOfReal? (.ofMagnitude (z < 0) (min BinaryFormat.double.infinityBits bits)) =
      if InReach z then some (clampLong z) else none := by
  by_cases hreach : InReach z
  · have hbounds : 2 ^ 63 ≤ z.natAbs ∧ z.natAbs ≤ 2 ^ 63 + 1024 := by
      simp only [InReach, leastLong, greatestLong] at hreach hz
      omega
    obtain rfl := eq_edgeBits hbounds.1 hbounds.2 h
    have hclamp : clampLong z = if decide (z < 0) then leastLong else greatestLong := by
      simp only [clampLong, leastLong, greatestLong, decide_eq_true_eq] at hz ⊢
      split <;> omega
    rw [min_eq_right (by decide), integerOfReal?_edge, if_pos hreach, hclamp]
  · have hlarge : 2 ^ 63 + 1025 ≤ z.natAbs := by
      simp only [InReach, leastLong, greatestLong] at hreach hz
      omega
    have hbits : edgeBits < bits := edgeBits_lt (by exact_mod_cast hlarge) h
    rw [if_neg hreach, integerOfReal?_beyond (lt_min (by decide) hbits) (min_le_left _ _)]

/-- The text of an integer is read as the double nearest to it. -/
theorem exists_toBinary?_eq {s : String} (hs : Number.IsInteger s.toList z) (hz : z ≠ 0) :
    ∃ bits, BinaryFormat.double.Rounds z.natAbs bits ∧ Number.toBinary? .double s =
      some (.ofMagnitude (z < 0) (min BinaryFormat.double.infinityBits bits)) := by
  obtain ⟨negative, hread, hsign⟩ := hs.read?
  obtain rfl := hsign hz
  obtain ⟨bits, hbits, hround⟩ := exists_ofRatio_eq .double z.natAbs
  refine ⟨bits, hbits, ?_⟩
  have hne : (z.natAbs == 0) = false := by simpa using hz
  have hfew : ¬ ((0 : ℤ) + digitCount z.natAbs < -400) := by omega
  rw [Number.toBinary?, hread, Option.map_some, ← hround]
  simp only [ofDecimal, hne, hfew, Bool.false_eq_true, if_false, if_true, le_refl, Int.toNat_zero,
    pow_zero, mul_one, show ¬ (400 : ℤ) < 0 by decide]

/-- The text of an integer within reach is read as the nearest 64-bit integer. -/
theorem readLong?_of_isInteger {s : String} (hs : Number.IsInteger s.toList z) :
    readLong? s = if InReach z then some (clampLong z) else none := by
  rw [readLong?, Number.readInt?_eq_some_iff.mpr hs]
  by_cases hrange : leastLong ≤ z ∧ z ≤ greatestLong
  · have hclamp : clampLong z = z := by
      rw [clampLong]
      omega
    have hreach : InReach z := by
      rw [InReach]
      omega
    rw [if_pos hreach, hclamp]
    simp only [hrange, decide_true, Bool.and_self, if_true]
  · have hout : z < leastLong ∨ greatestLong < z := by omega
    have hne : z ≠ 0 := by
      rintro rfl
      exact hrange (by decide)
    obtain ⟨bits, hbits, hread⟩ := exists_toBinary?_eq hs hne
    have hcond : (decide (leastLong ≤ z) && decide (z ≤ greatestLong)) = false := by
      simpa using hrange
    simp only [hcond, Bool.false_eq_true, if_false, hread, Option.bind_some]
    exact integerOfReal?_of_rounds hout hbits

end

/-! ## Nodes that denote integers -/

/-- Whether a node denotes an integer: it is an integer, or the text of one, or what an integer of
a JSON text is read as. -/
inductive DenotesInteger : Tree → ℤ → Prop where
  | int (z : ℤ) : DenotesInteger (.int z) z
  | text {s : String} {z : ℤ} (hs : Number.IsInteger s.toList z) : DenotesInteger (.text s) z
  | literal {s : String} {z : ℤ} {t : Tree} (hs : Number.IsInteger s.toList z)
      (ht : Json.readText s = .ok t) : DenotesInteger t z

/-- The text of an integer denotes it. -/
theorem isInteger_toString (z : ℤ) : Number.IsInteger (toString z).toList z := by
  cases z with
  | ofNat n =>
    have hdigits := Number.isNumeral_toDigits n
    have htext : (toString (Int.ofNat n)).toList = Nat.toDigits 10 n := by
      simp [toString, Int.repr]
    rw [htext]
    exact .plain hdigits
  | negSucc n =>
    have hdigits := Number.isNumeral_toDigits (n + 1)
    have htext : (toString (Int.negSucc n)).toList = '-' :: Nat.toDigits 10 (n + 1) := by
      simp [toString, Int.repr]
    rw [htext]
    exact .minus hdigits

/-- The text of a finite double is read as the integer that the double stands for. -/
theorem readLong?_real {bits : ℕ} (hbits : bits < BinaryFormat.double.infinityBits)
    (negative : Bool) : readLong? (Tree.real (ofMagnitude negative bits)).toText =
      integerOfReal? (.ofMagnitude negative bits) := by
  obtain ⟨hback, hint⟩ := toBinary?_render hbits negative
  have htext : (Tree.real (ofMagnitude negative bits)).toText =
      (ofMagnitude negative bits : Binary64).render := String.ofList_toList
  rw [htext, readLong?, hint, hback]
  rfl

/-- What an integer of a JSON text is read as has the reading of the integer. -/
theorem readLong?_of_integerNode {z : ℤ} {t : Tree} (h : Json.IntegerNode z t) :
    readLong? t.toText = if InReach z then some (clampLong z) else none := by
  cases h with
  | exact =>
    have htext : (Tree.int z).toText = toString z := String.ofList_toList
    rw [htext, readLong?_of_isInteger (isInteger_toString z)]
  | @rounded bits hz hbits hrounds =>
    rw [readLong?_real hbits]
    rcases hz with rfl | hz
    · have hzero : BinaryFormat.double.Rounds (0 : ℕ) 0 :=
        rounds_of_roundRatio (by decide) (by decide)
      obtain rfl := hrounds.unique hzero
      decide +kernel
    · have hround := integerOfReal?_of_rounds (.inl hz) hrounds
      rwa [min_eq_right hbits.le, decide_eq_true (by omega)] at hround
  | @scaled negative bits v hz hbits hv hrounds =>
    have hreach : ¬ InReach z := by
      simp only [InReach, leastLong, greatestLong]
      omega
    rw [readLong?_real hbits, integerOfReal?_beyond (edgeBits_lt (by linarith) hrounds) hbits.le,
      if_neg hreach]

/-- The text of a node that denotes an integer has the reading of the integer. -/
theorem readLong?_of_denotesInteger {z : ℤ} {t : Tree} (h : DenotesInteger t z) :
    readLong? t.toText = if InReach z then some (clampLong z) else none := by
  cases h with
  | int z => exact readLong?_of_integerNode .exact
  | text hs => exact readLong?_of_isInteger hs
  | literal hs ht => exact readLong?_of_integerNode (Json.integerNode_of_readText hs ht)

/-! ## The readings of a node -/

section

variable {t node : Tree} {expr : String} {z : ℤ}

/-- A number has a text. -/
theorem toText_real_ne_empty {bits : ℕ} (hbits : bits < BinaryFormat.double.infinityBits)
    (negative : Bool) : (Tree.real (ofMagnitude negative bits)).toText ≠ "" := by
  intro htext
  have hback := (toBinary?_render hbits negative).1
  change String.ofList (String.toList _) = "" at htext
  rw [String.ofList_toList] at htext
  rw [htext] at hback
  cases hback

/-- A node that denotes an integer has a text. -/
theorem DenotesInteger.toText_ne_empty (h : DenotesInteger node z) : node.toText ≠ "" := by
  have hwritten {s : String} {z : ℤ} (hs : Number.IsInteger s.toList z) : s ≠ "" := by
    rintro rfl
    cases hs with
    | plain h => exact h.ne_nil rfl
  have hint (z : ℤ) : (Tree.int z).toText ≠ "" := by
    change String.ofList (toString z).toList ≠ ""
    rw [String.ofList_toList]
    exact hwritten (isInteger_toString z)
  cases h with
  | int z => exact hint z
  | text hs => exact hwritten hs
  | literal hs ht =>
    cases Json.integerNode_of_readText hs ht with
    | exact => exact hint z
    | rounded _ hbits _ => exact toText_real_ne_empty hbits _
    | scaled _ hbits _ _ => exact toText_real_ne_empty hbits _

/-- A node with a text is read. -/
theorem getAs_of_get {α : Type} (hget : get t expr = .ok (some node)) (htext : node.toText ≠ "")
    (dflt : α) (target : Target) (read? : String → Option α) :
    getAs t expr dflt target read? =
      match read? node.toText with
      | some v => .ok v
      | none => .error (.unreadable node.toText target) := by
  have hempty : ¬ node.toText.isEmpty = true := by simpa using htext
  have hread : getText t expr "" = .ok node.toText := by
    rw [getText, hget]
    rfl
  rw [getAs, hread]
  exact if_neg hempty

/-- The 64-bit reading of a node that denotes an integer. -/
theorem getLong_of_denotesInteger (hget : get t expr = .ok (some node))
    (hz : DenotesInteger node z) (dflt : ℤ) :
    getLong t expr dflt =
      if InReach z then .ok (clampLong z) else .error (.unreadable node.toText .long) := by
  rw [getLong, getAs_of_get hget hz.toText_ne_empty, readLong?_of_denotesInteger hz]
  by_cases hreach : InReach z
  · rw [if_pos hreach, if_pos hreach]
  · rw [if_neg hreach, if_neg hreach]

/-- The answer of a reading that gives the integers of a range and refuses the others. -/
def exactly (least greatest z : ℤ) (text : String) (target : Target) : Except Failure ℤ :=
  if least ≤ z ∧ z ≤ greatest then .ok z else .error (.unreadable text target)

/-- The 32-bit reading of a node that denotes an integer is exact. -/
theorem getInt_of_denotesInteger (hget : get t expr = .ok (some node))
    (hz : DenotesInteger node z) (dflt : ℤ) :
    getInt t expr dflt = exactly (-2 ^ 31) (2 ^ 31 - 1) z node.toText .int := by
  have hread : readInt? node.toText =
      if -2 ^ 31 ≤ z ∧ z ≤ 2 ^ 31 - 1 then some z else none := by
    rw [readInt?, readLong?_of_denotesInteger hz]
    by_cases hrange : -2 ^ 31 ≤ z ∧ z ≤ 2 ^ 31 - 1
    · have hreach : InReach z := by
        simp only [InReach, leastLong, greatestLong]
        omega
      have hclamp : clampLong z = z := by
        simp only [clampLong, leastLong, greatestLong]
        omega
      have hlt : -2 ^ 31 ≤ z ∧ z < 2 ^ 31 := by omega
      rw [if_pos hreach, if_pos hrange, hclamp]
      simpa using hlt
    · by_cases hreach : InReach z
      · have hclamp : ¬ (-2 ^ 31 ≤ clampLong z ∧ clampLong z < 2 ^ 31) := by
          simp only [clampLong, leastLong, greatestLong]
          omega
        rw [if_pos hreach, if_neg hrange]
        simpa using hclamp
      · rw [if_neg hreach, if_neg hrange]
        rfl
  rw [getInt, getAs_of_get hget hz.toText_ne_empty, hread, exactly]
  by_cases hrange : -2 ^ 31 ≤ z ∧ z ≤ 2 ^ 31 - 1
  · rw [if_pos hrange, if_pos hrange]
  · rw [if_neg hrange, if_neg hrange]

/-- Whether an integer is beyond 64 bits, but within reach of their ends. -/
def NearlyLong (z : ℤ) : Prop :=
  InReach z ∧ ¬ (leastLong ≤ z ∧ z ≤ greatestLong)

instance (z : ℤ) : Decidable (NearlyLong z) :=
  inferInstanceAs (Decidable (_ ∧ _))

/-- **Exact integers.** The 32-bit reading of a node that denotes an integer is exact. The 64-bit
reading is exact but for the integers just beyond 64 bits, for which it gives the end of the range
instead of a failure. -/
theorem integers_exact_iff (hget : get t expr = .ok (some node)) (hz : DenotesInteger node z)
    (dflt : ℤ) :
    getInt t expr dflt = exactly (-2 ^ 31) (2 ^ 31 - 1) z node.toText .int ∧
      (getLong t expr dflt = exactly leastLong greatestLong z node.toText .long ↔
        ¬ NearlyLong z) ∧
      (NearlyLong z → getLong t expr dflt = .ok (clampLong z)) := by
  refine ⟨getInt_of_denotesInteger hget hz dflt, ?_, ?_⟩
  · rw [getLong_of_denotesInteger hget hz, exactly]
    by_cases hrange : leastLong ≤ z ∧ z ≤ greatestLong
    · have hreach : InReach z := by
        rw [InReach]
        omega
      have hclamp : clampLong z = z := by
        rw [clampLong]
        omega
      simp [hreach, hrange, hclamp, NearlyLong]
    · by_cases hreach : InReach z
      · simp [hreach, hrange, NearlyLong]
      · simp [hreach, hrange, NearlyLong]
  · intro hnear
    rw [getLong_of_denotesInteger hget hz, if_pos hnear.1]

/-- The greatest integer of a JSON text within reach. -/
theorem integers_exact_iff_literal :
    let node : Tree := .int 9223372036854776832
    let t : Tree := .map [("n", node)]
    get t "n" = .ok (some node) ∧ DenotesInteger node 9223372036854776832 ∧
      getInt t "n" 0 = .error (.unreadable "9223372036854776832" .int) ∧
      getLong t "n" 0 = .ok 9223372036854775807 := by
  intro node t
  have hget : get t "n" = .ok (some node) := rfl
  have hread : Json.readText "9223372036854776832" = .ok node := rfl
  have hz : DenotesInteger node 9223372036854776832 :=
    .literal (Number.readInt?_eq_some_iff.mp (by decide)) hread
  have htext : node.toText = "9223372036854776832" := rfl
  obtain ⟨hint, -, hlong⟩ := integers_exact_iff hget hz 0
  refine ⟨hget, hz, ?_, hlong (by decide)⟩
  rw [hint, htext]
  rfl

/-- The least integer beyond 64 bits is taken for the greatest within. -/
theorem getLong_ne_exactly :
    let node : Tree := .text "9223372036854775808"
    let t : Tree := .map [("n", node)]
    get t "n" = .ok (some node) ∧ DenotesInteger node 9223372036854775808 ∧
      getLong t "n" 0 = .ok 9223372036854775807 ∧
      getLong t "n" 0 ≠
        exactly leastLong greatestLong 9223372036854775808 node.toText .long := by
  intro node t
  have hget : get t "n" = .ok (some node) := rfl
  have hs : Number.IsInteger "9223372036854775808".toList 9223372036854775808 :=
    Number.readInt?_eq_some_iff.mp (by decide)
  have hz : DenotesInteger node 9223372036854775808 := .text hs
  have hlong : getLong t "n" 0 = .ok 9223372036854775807 := by
    rw [getLong_of_denotesInteger hget hz, if_pos (by decide)]
    rfl
  refine ⟨hget, hz, hlong, ?_⟩
  rw [hlong, exactly, if_neg (by decide)]
  rintro ⟨⟩

end

end Path

end QueryGateway
