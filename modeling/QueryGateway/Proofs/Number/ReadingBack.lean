import Mathlib.Data.List.TakeWhile
import QueryGateway.Proofs.Number.Shortest
import QueryGateway.Proofs.Path.Indexing

/-!
# Numbers are read back from their text

The shortest decimal of a number is written positionally or with an exponent. Both forms are
read as the decimal that was written, and that one is rounded to the number. So a finite double
is read back from its text, which is never taken for that of an integer.
-/

namespace QueryGateway

namespace Number

/-! ## Integers -/

/-- The ways to write an integer: decimal digits, which a sign may stand before. -/
inductive IsInteger : List Char → ℤ → Prop where
  | plain {digits : List Char} {n : ℕ} (h : IsNumeral digits n) : IsInteger digits n
  | plus {digits : List Char} {n : ℕ} (h : IsNumeral digits n) : IsInteger ('+' :: digits) n
  | minus {digits : List Char} {n : ℕ} (h : IsNumeral digits n) : IsInteger ('-' :: digits) (-n)

/-- A text that begins with a digit has no sign. -/
theorem splitSign_of_digit {s : List Char} (hs : ∃ c ∈ s.head?, Text.isAsciiDigit c = true) :
    splitSign s = (false, s) := by
  obtain ⟨c, hhead, hc⟩ := hs
  obtain ⟨t, rfl⟩ := List.head?_eq_some_iff.mp hhead
  rw [splitSign] <;> (rintro t h; obtain rfl := (List.cons.inj h).1; cases hc)

/-- A numeral begins with a digit. -/
theorem IsNumeral.head {digits : List Char} {n : ℕ} (h : IsNumeral digits n) :
    ∃ c ∈ digits.head?, Text.isAsciiDigit c = true := by
  obtain ⟨c, rest, rfl⟩ := List.exists_cons_of_ne_nil h.ne_nil
  exact ⟨c, rfl, h.all_digits c (by simp)⟩

/-- Just the written integers are read. -/
theorem readInt?_eq_some_iff {s : List Char} {z : ℤ} : readInt? s = some z ↔ IsInteger s z := by
  rw [readInt?]
  constructor
  · intro h
    obtain ⟨_, hsome, rfl⟩ := Option.map_eq_some_iff.mp h
    obtain ⟨n, hn, hcast⟩ := Option.bind_eq_some_iff.mp hsome
    obtain rfl := Option.some.inj hcast
    rw [readNat?_eq_some_iff] at hn
    simp only at hn ⊢
    split at hn
    · exact .minus hn
    · exact .plus hn
    · exact .plain hn
  · rintro (hn | hn | hn)
    · simp [splitSign_of_digit hn.head, readNat?_eq_some_iff.mpr hn]
    · simp [splitSign, readNat?_eq_some_iff.mpr hn]
    · simp [splitSign, readNat?_eq_some_iff.mpr hn]

/-! ## Lists of digits -/

section

variable {s t whole fraction tail : List Char} {c : Char}

/-- Whether a list has digits only. -/
def IsDigits (s : List Char) : Prop :=
  ∀ c ∈ s, Text.isAsciiDigit c = true

theorem IsDigits.mono (hs : IsDigits s) (hsub : t ⊆ s) : IsDigits t :=
  fun c hc => hs c (hsub hc)

theorem IsDigits.append (hs : IsDigits s) (ht : IsDigits t) : IsDigits (s ++ t) := by
  intro c hc
  exact (List.mem_append.mp hc).elim (hs c) (ht c)

theorem isDigits_replicate (k : ℕ) : IsDigits (List.replicate k '0') := by
  intro c hc
  rw [List.eq_of_mem_replicate hc]
  rfl

/-- A further digit is worth its own value, those before it ten times as much. -/
theorem ofDigits_concat (s : List Char) (c : Char) :
    ofDigits (s ++ [c]) = ofDigits s * 10 + (c.toNat - 48) := by
  simp [ofDigits]

/-- Digits are worth a power of ten more for every digit behind them. -/
theorem ofDigits_append (s t : List Char) :
    ofDigits (s ++ t) = ofDigits s * 10 ^ t.length + ofDigits t := by
  induction t using List.reverseRecOn with
  | nil => simp [ofDigits]
  | append_singleton t c ih =>
    rw [← List.append_assoc, ofDigits_concat, ih, ofDigits_concat, List.length_append,
      List.length_singleton]
    ring

/-- Zeros are worth nothing. -/
theorem ofDigits_replicate (k : ℕ) : ofDigits (List.replicate k '0') = 0 := by
  induction k with
  | zero => rfl
  | succ k ih =>
    rw [List.replicate_succ', ofDigits_concat, ih]
    rfl

/-- A list is what is left of it without its trailing zeros, and these zeros. -/
theorem exists_dropZeros (s : List Char) :
    ∃ k, s = Binary.dropZeros s ++ List.replicate k '0' := by
  refine ⟨(s.reverse.takeWhile (· == '0')).length, ?_⟩
  have hzeros : s.reverse.takeWhile (· == '0') =
      List.replicate (s.reverse.takeWhile (· == '0')).length '0' :=
    List.eq_replicate_iff.mpr ⟨rfl, fun c hc => by simpa using List.mem_takeWhile_imp hc⟩
  have hsplit := congrArg List.reverse (List.takeWhile_append_dropWhile (p := (· == '0'))
    (l := s.reverse))
  rw [List.reverse_append, List.reverse_reverse, hzeros, List.reverse_replicate] at hsplit
  exact hsplit.symm

/-! ## The parts of a decimal -/

/-- A text with a point is read as its digits, and as many places as stand behind the point. -/
theorem readDecimal?_point (hwhole : IsDigits whole) (hne : whole ≠ [])
    (hfraction : IsDigits fraction)
    (htail : ∀ c ∈ tail.head?, Text.isAsciiDigit c = false) (negative : Bool) :
    readDecimal? negative (whole ++ '.' :: (fraction ++ tail)) = (readExponent? tail).map
      fun e => .decimal negative (ofDigits (whole ++ fraction)) (e - fraction.length) := by
  have hpoint : ∀ c ∈ ('.' :: (fraction ++ tail)).head?, Text.isAsciiDigit c = false := by
    rintro c ⟨⟩
    rfl
  rw [readDecimal?, Text.takeWhile_run hwhole hpoint, Text.dropWhile_run hwhole hpoint]
  simp only [Text.takeWhile_run hfraction htail, Text.dropWhile_run hfraction htail]
  rw [if_neg (by simp [hne])]

/-- A text without a point is read as its digits. -/
theorem readDecimal?_exponent (hwhole : IsDigits whole) (hne : whole ≠ [])
    (negative : Bool) :
    readDecimal? negative (whole ++ 'e' :: tail) =
      (readExponent? ('e' :: tail)).map fun e => .decimal negative (ofDigits whole) e := by
  have hmark : ∀ c ∈ ('e' :: tail).head?, Text.isAsciiDigit c = false := by
    rintro c ⟨⟩
    rfl
  rw [readDecimal?, Text.takeWhile_run hwhole hmark, Text.dropWhile_run hwhole hmark]
  simp [hne]

/-- Without an exponent it is zero. -/
theorem readExponent?_nil : readExponent? [] = some 0 := rfl

/-- A written exponent is read. -/
theorem readExponent?_written (x : ℤ) :
    readExponent? ('e' :: (if x < 0 then '-' else '+') :: Nat.toDigits 10 x.natAbs) = some x := by
  have hdigits := isNumeral_toDigits x.natAbs
  change readInt? _ = some x
  rw [readInt?_eq_some_iff]
  by_cases hx : x < 0
  · have hwritten := IsInteger.minus hdigits
    rwa [show -(x.natAbs : ℤ) = x by omega, ← if_pos (t := '-') (e := '+') hx] at hwritten
  · have hwritten := IsInteger.plus hdigits
    rwa [show (x.natAbs : ℤ) = x by omega, ← if_neg (t := '-') (e := '+') hx] at hwritten

end

/-! ## Written decimals -/

/-- Whether a text is read as a decimal of a value, and is not that of an integer. -/
structure WritesDecimal (s : List Char) (v : ℚ) : Prop where
  head : ∃ c ∈ s.head?, Text.isAsciiDigit c = true
  mark : ∃ c ∈ s, Text.isAsciiDigit c = false
  reading : ∀ negative, ∃ (c : ℕ) (e : ℤ),
    readDecimal? negative s = some (.decimal negative c e) ∧ (c : ℚ) * 10 ^ e = v

section

variable {s t whole fraction tail : List Char} {v : ℚ} {e : ℤ}

theorem writesDecimal_point (hwhole : IsDigits whole) (hne : whole ≠ [])
    (hfraction : IsDigits fraction)
    (htail : ∀ c ∈ tail.head?, Text.isAsciiDigit c = false) (he : readExponent? tail = some e) :
    WritesDecimal (whole ++ '.' :: (fraction ++ tail))
      (ofDigits (whole ++ fraction) * 10 ^ (e - fraction.length)) where
  head := by
    obtain ⟨c, whole, rfl⟩ := List.exists_cons_of_ne_nil hne
    exact ⟨c, rfl, hwhole c (by simp)⟩
  mark := ⟨'.', by simp, rfl⟩
  reading negative := by
    have hread := readDecimal?_point hwhole hne hfraction htail negative
    rw [he] at hread
    exact ⟨_, _, hread, rfl⟩

theorem writesDecimal_exponent (hwhole : IsDigits whole) (hne : whole ≠ [])
    (he : readExponent? ('e' :: tail) = some e) :
    WritesDecimal (whole ++ 'e' :: tail) (ofDigits whole * 10 ^ e) where
  head := by
    obtain ⟨c, whole, rfl⟩ := List.exists_cons_of_ne_nil hne
    exact ⟨c, rfl, hwhole c (by simp)⟩
  mark := ⟨'e', by simp, rfl⟩
  reading negative := by
    have hread : readDecimal? negative (whole ++ 'e' :: tail) = _ :=
      readDecimal?_exponent hwhole hne negative
    rw [he] at hread
    exact ⟨_, _, hread, rfl⟩

/-- A text with a sign. -/
def signed (negative : Bool) (s : List Char) : List Char :=
  if negative then '-' :: s else s

/-- The sign of a text that begins with a digit is found again. -/
theorem splitSign_signed (hs : ∃ c ∈ s.head?, Text.isAsciiDigit c = true) (negative : Bool) :
    splitSign (signed negative s) = (negative, s) := by
  cases negative with
  | true => rfl
  | false => exact splitSign_of_digit hs

/-- No word for infinity or for what is not a number begins with a digit. -/
theorem map_toLower_ne {word : List Char} (hs : ∃ c ∈ s.head?, Text.isAsciiDigit c = true)
    (hword : ∀ c ∈ word.head?, Text.isAsciiDigit c = false) : s.map Char.toLower ≠ word := by
  rintro rfl
  obtain ⟨c, hhead, hc⟩ := hs
  obtain ⟨t, rfl⟩ := List.head?_eq_some_iff.mp hhead
  have hsame : c.toLower = c := by
    refine dif_neg ?_
    simp only [Text.isAsciiDigit, Char.le_def, Bool.and_eq_true, decide_eq_true_eq] at hc
    rintro ⟨hupper, -⟩
    exact absurd (UInt32.le_trans hupper hc.2) (by decide)
  have hlower := hword c (by simp [hsame])
  rw [hc] at hlower
  cases hlower

/-- What begins with a digit behind its sign is read as a decimal. -/
theorem read?_of_splitSign {negative : Bool} (hsplit : splitSign t = (negative, s))
    (hs : ∃ c ∈ s.head?, Text.isAsciiDigit c = true) :
    read? t = readDecimal? negative s := by
  have hword (word : List Char) (hhead : ∀ c ∈ word.head?, Text.isAsciiDigit c = false) :
      (s.map Char.toLower == word) = false :=
    beq_eq_false_iff_ne.mpr (map_toLower_ne hs hhead)
  rw [read?, hsplit]
  simp only [hword "nan".toList (by rintro c ⟨⟩; rfl),
    hword "inf".toList (by rintro c ⟨⟩; rfl),
    hword "infinity".toList (by rintro c ⟨⟩; rfl), Bool.or_self, Bool.false_eq_true,
    if_false]

/-- A written decimal is read with its sign. -/
theorem WritesDecimal.read? (h : WritesDecimal s v) (negative : Bool) :
    ∃ (c : ℕ) (e : ℤ), read? (signed negative s) = some (.decimal negative c e) ∧
      (c : ℚ) * 10 ^ e = v := by
  obtain ⟨c, e, hread, hv⟩ := h.reading negative
  rw [read?_of_splitSign (splitSign_signed h.head negative) h.head]
  exact ⟨c, e, hread, hv⟩

/-- Digits without point and exponent are read as they are. -/
theorem IsNumeral.readDecimal? {n : ℕ} (h : IsNumeral s n) (negative : Bool) :
    readDecimal? negative s = some (.decimal negative n 0) := by
  have htake : s.takeWhile Text.isAsciiDigit = s := List.takeWhile_eq_self_iff.mpr h.all_digits
  have hdrop : s.dropWhile Text.isAsciiDigit = [] := List.dropWhile_eq_nil_iff.mpr h.all_digits
  rw [Number.readDecimal?, htake, hdrop]
  simp [h.ne_nil, h.value, readExponent?]

/-- An integer is read as a decimal with its sign. -/
theorem IsInteger.read? {z : ℤ} (h : IsInteger s z) :
    ∃ negative, Number.read? s = some (.decimal negative z.natAbs 0) ∧
      (z ≠ 0 → negative = decide (z < 0)) := by
  have hread {digits : List Char} {n : ℕ} {negative : Bool} (hdigits : IsNumeral digits n)
      (hsplit : splitSign s = (negative, digits)) :
      Number.read? s = some (.decimal negative n 0) := by
    rw [read?_of_splitSign hsplit hdigits.head, hdigits.readDecimal?]
  cases h with
  | plain h =>
    refine ⟨false, hread h (splitSign_of_digit h.head), fun _ => ?_⟩
    simp
  | plus h =>
    refine ⟨false, hread h rfl, fun _ => ?_⟩
    simp
  | @minus digits n h =>
    have habs : (-(n : ℤ)).natAbs = n := by omega
    rw [habs]
    refine ⟨true, hread h rfl, fun hne => ?_⟩
    symm
    rw [decide_eq_true_iff]
    omega

/-- A decimal is not read as an integer. -/
theorem WritesDecimal.readInt? (h : WritesDecimal s v) (negative : Bool) :
    readInt? (signed negative s) = none := by
  obtain ⟨c, hmem, hc⟩ := h.mark
  rw [Number.readInt?, splitSign_signed h.head]
  have hdigits : (!s.isEmpty && s.all Text.isAsciiDigit) = false := by
    rw [Bool.and_eq_false_iff]
    right
    simpa using ⟨c, hmem, hc⟩
  simp [readNat?, hdigits]

end

end Number

/-! ## The forms of a decimal -/

namespace DecimalDigits

variable {d : DecimalDigits}

open Number

/-- The value of a decimal. -/
def value (d : DecimalDigits) : ℚ :=
  ofDigits d.digits * 10 ^ (d.point - d.digits.length)

/-- Whether a decimal has digits, and nothing else. -/
structure IsProper (d : DecimalDigits) : Prop where
  ne_nil : d.digits ≠ []
  all_digits : IsDigits d.digits

section

variable {digits : List Char}

/-- Digits that stand behind the point and some zeros. -/
theorem writesDecimal_behind (hdigits : IsDigits digits) (k : ℕ) :
    WritesDecimal ('0' :: '.' :: (List.replicate k '0' ++ digits))
      (ofDigits digits * 10 ^ (-(k : ℤ) - digits.length)) := by
  have hwrites := writesDecimal_point (isDigits_replicate 1) (by simp)
    ((isDigits_replicate k).append hdigits) (by simp) readExponent?_nil
  rw [← List.append_assoc, ← List.replicate_add, ofDigits_append, ofDigits_replicate] at hwrites
  convert hwrites using 1
  · simp
  · congr 1
    · simp
    · congr 1
      simp only [List.length_append, List.length_replicate]
      omega

/-- Digits that stand before some zeros and the point. -/
theorem writesDecimal_before (hdigits : IsDigits digits) (hne : digits ≠ []) (k : ℕ) :
    WritesDecimal (digits ++ List.replicate k '0' ++ ['.', '0']) (ofDigits digits * 10 ^ k) := by
  have hwrites := writesDecimal_point (hdigits.append (isDigits_replicate k)) (by simp [hne])
    (isDigits_replicate 1) (by simp) readExponent?_nil
  have hpow : (10 : ℚ) ^ (k + 1) * 10 ^ (-1 : ℤ) = 10 ^ k := by
    rw [pow_succ, zpow_neg_one, mul_assoc, mul_inv_cancel₀ (by norm_num), mul_one]
  convert hwrites using 1
  · simp
  · rw [List.append_assoc, ← List.replicate_add, ofDigits_append, ofDigits_replicate]
    simp only [List.length_replicate, Nat.cast_one, zero_sub]
    push_cast
    rw [add_zero, mul_assoc, hpow]

/-- Digits with the point between them. -/
theorem writesDecimal_between (hdigits : IsDigits digits) (hne : digits ≠ []) {k : ℕ}
    (hk : k ≠ 0) (hlength : k < digits.length) :
    WritesDecimal (digits.take k ++ '.' :: digits.drop k)
      (ofDigits digits * 10 ^ (k - digits.length : ℤ)) := by
  have hwrites := writesDecimal_point (hdigits.mono (List.take_subset k digits))
    (by simp [hk, hne]) (hdigits.mono (List.drop_subset k digits)) (by simp) readExponent?_nil
  rw [List.append_nil, List.take_append_drop, List.length_drop] at hwrites
  convert hwrites using 3
  omega

end

/-- The positional form denotes the decimal. -/
theorem IsProper.writesDecimal_positional (h : d.IsProper) :
    WritesDecimal d.positional d.value := by
  obtain ⟨digits, point⟩ := d
  obtain ⟨hne, hdigits⟩ := h
  simp only at hne hdigits
  rw [positional, value]
  by_cases hpoint : point ≤ 0
  · obtain ⟨k, hk⟩ := Int.eq_ofNat_of_zero_le (show 0 ≤ -point by omega)
    obtain rfl : point = -(k : ℤ) := by omega
    simpa using writesDecimal_behind hdigits k
  · obtain ⟨k, rfl⟩ := Int.eq_ofNat_of_zero_le (show 0 ≤ point by omega)
    by_cases hlength : digits.length ≤ k
    · obtain ⟨i, rfl⟩ := Nat.exists_eq_add_of_le hlength
      have hle : (digits.length : ℤ) ≤ (digits.length + i : ℕ) := by omega
      simp only [hpoint, hle, if_true, if_false]
      simpa using writesDecimal_before hdigits hne i
    · have hlt : ¬ (digits.length : ℤ) ≤ k := by omega
      simp only [hpoint, hlt, if_false]
      exact writesDecimal_between hdigits hne (by omega) (not_le.mp hlength)

/-- The form with an exponent denotes the decimal. -/
theorem IsProper.writesDecimal_scientific (h : d.IsProper) :
    WritesDecimal d.scientific d.value := by
  obtain ⟨digits, point⟩ := d
  obtain ⟨hne, hdigits⟩ := h
  simp only at hne hdigits
  rw [scientific, value]
  have hexponent := readExponent?_written (point - 1)
  match digits, hne with
  | [c], _ =>
    have hwrites := writesDecimal_exponent hdigits (by simp) hexponent
    simpa using hwrites
  | c :: d :: rest, _ =>
    have hfirst : IsDigits [c] := by simpa [IsDigits] using hdigits c (by simp)
    have hrest : IsDigits (d :: rest) := hdigits.mono (List.subset_cons_self c _)
    have hwrites :=
      writesDecimal_point hfirst (by simp) hrest (by rintro x ⟨⟩; rfl) hexponent
    have hpoint : point - (rest.length + 1 + 1 : ℕ) = point - 1 - (rest.length + 1 : ℕ) := by
      omega
    convert hwrites using 1
    · rfl
    · change (ofDigits (c :: d :: rest) : ℚ) * 10 ^ (point - (rest.length + 1 + 1 : ℕ)) = _
      rw [hpoint]
      rfl

/-- A decimal is written in a form that denotes it. -/
theorem IsProper.writesDecimal_render (h : d.IsProper) (style : NumberStyle) :
    WritesDecimal (d.render style) d.value := by
  rw [render]
  split
  · exact h.writesDecimal_positional
  · exact h.writesDecimal_scientific

end DecimalDigits

namespace Binary

variable {m : ℕ} {e : ℤ}

open Number

/-- The shortest decimal of a double is written with digits, and lies in its rounding interval. -/
theorem contains_shortest (hnumber : BinaryFormat.double.IsNumber m e) (hm : 0 < m) :
    (shortest .double m e).IsProper ∧
      (roundingOf .double m e).Contains (shortest .double m e).value := by
  obtain ⟨c, places, hc, hcontains, hshortest⟩ := exists_shortest hnumber hm
  have hdigits := isNumeral_toDigits c
  obtain ⟨k, hk⟩ := exists_dropZeros (Nat.toDigits 10 c)
  have hvalue := ofDigits_append (dropZeros (Nat.toDigits 10 c)) (List.replicate k '0')
  rw [← hk, hdigits.value, ofDigits_replicate, List.length_replicate, Nat.add_zero] at hvalue
  have hlength := congrArg List.length hk
  rw [List.length_append, List.length_replicate] at hlength
  rw [hshortest]
  refine ⟨⟨fun hnil => ?_, ?_⟩, ?_⟩
  · simp only at hnil
    rw [hnil] at hvalue
    simp [ofDigits] at hvalue
    omega
  · have hall : IsDigits (Nat.toDigits 10 c) := hdigits.all_digits
    rw [hk] at hall
    exact hall.mono (List.subset_append_left _ _)
  · have hpow : (10 : ℚ) ^ ((k : ℤ) + places) = 10 ^ k * 10 ^ places := by
      rw [zpow_add₀ (by norm_num), zpow_natCast]
    have hplaces : ((Nat.toDigits 10 c).length + places : ℤ) -
        (dropZeros (Nat.toDigits 10 c)).length = k + places := by
      rw [hlength]
      push_cast
      ring
    rw [DecimalDigits.value, hplaces, hpow, ← mul_assoc]
    rw [hvalue] at hcontains
    exact_mod_cast hcontains

/-- A decimal is rounded as its value is. -/
theorem ofDecimal_of_rounds {f : BinaryFormat} {c bits : ℕ} {x : ℤ}
    (hlow : (10 : ℚ) ^ (-400 : ℤ) ≤ c * 10 ^ x) (hhigh : (c : ℚ) * 10 ^ x < 10 ^ (401 : ℤ))
    (hrounds : f.Rounds (c * 10 ^ x) bits) (hfinite : bits < f.infinityBits) (negative : Bool) :
    (ofDecimal negative c x : Binary f) = ofMagnitude negative bits := by
  have hpow : (0 : ℚ) < 10 ^ x := by positivity
  have hzero : (0 : ℚ) < 10 ^ (-400 : ℤ) := by positivity
  have hc : 0 < c := by
    rcases c.eq_zero_or_pos with rfl | hc
    · rw [Nat.cast_zero, zero_mul] at hlow
      exact absurd hlow (not_le.mpr hzero)
    · exact hc
  have hlarge : ¬ 400 < x := by
    intro hx
    have hone : (1 : ℚ) ≤ c := by exact_mod_cast hc
    have hpower : (10 : ℚ) ^ (401 : ℤ) ≤ 10 ^ x := zpow_le_zpow_right₀ (by norm_num) hx
    exact absurd hhigh (not_lt.mpr (hpower.trans (le_mul_of_one_le_left hpow.le hone)))
  have hsmall : ¬ x + digitCount c < -400 := by
    intro hx
    have hlength : (c : ℚ) < 10 ^ (digitCount c : ℤ) := by
      exact_mod_cast lt_ten_pow_digitCount c
    have hlt : (c : ℚ) * 10 ^ x < 10 ^ (-400 : ℤ) := by
      calc (c : ℚ) * 10 ^ x < 10 ^ (digitCount c : ℤ) * 10 ^ x := by gcongr
        _ = 10 ^ (x + digitCount c) := by rw [← zpow_add₀ (by norm_num), add_comm]
        _ ≤ 10 ^ (-400 : ℤ) := zpow_le_zpow_right₀ (by norm_num) hx.le
    exact absurd hlow (not_le.mpr hlt)
  have hratio {num den : ℕ} (hden : 0 < den) (hv : (c : ℚ) * 10 ^ x = num / den) :
      (ofRatio negative num den : Binary f) = ofMagnitude negative bits := by
    rw [hv] at hrounds
    rw [ofRatio, hrounds.roundRatio_eq hden, min_eq_right hfinite.le]
  rw [ofDecimal, if_neg (by simpa using hc.ne'), if_neg hlarge, if_neg hsmall]
  by_cases hx : 0 ≤ x
  · obtain ⟨i, rfl⟩ := Int.eq_ofNat_of_zero_le hx
    rw [if_pos hx]
    apply hratio one_pos
    simp
  · obtain ⟨i, hi⟩ := Int.eq_ofNat_of_zero_le (show 0 ≤ -x by omega)
    obtain rfl : x = -(i : ℤ) := by omega
    rw [if_neg hx]
    apply hratio (by positivity)
    rw [zpow_neg, neg_neg, Int.toNat_natCast, Nat.cast_pow, zpow_natCast, div_eq_mul_inv]
    rfl

/-- The rounding interval of a finite double is within the reach of decimals. -/
theorem Rounding.Contains.reach {v : ℚ} (hnumber : BinaryFormat.double.IsNumber m e) (hm : 0 < m)
    (hfinite : BinaryFormat.double.pack m e < BinaryFormat.double.infinityBits)
    (hv : (roundingOf .double m e).Contains v) :
    (10 : ℚ) ^ (-400 : ℤ) ≤ v ∧ v < 10 ^ (401 : ℤ) := by
  obtain ⟨u, below, h⟩ := exists_quarters hm hv
  have hleast : -1074 ≤ e := hnumber.least
  have hmost : e < 1000 := by
    have hpack : (e + 1074).toNat * 2 ^ 52 + m < 2047 * 2 ^ 52 := hfinite
    omega
  have hpower : (2 : ℚ) ^ (1200 : ℤ) ≤ 10 ^ (400 : ℤ) := by
    have hcast {i n : ℕ} (hi : i ≤ 3 * n) : (2 : ℚ) ^ (i : ℤ) ≤ 10 ^ (n : ℤ) := by
      exact_mod_cast two_pow_le_ten_pow hi
    have h := hcast (i := 1200) (n := 400) (by omega)
    simpa only [Nat.cast_ofNat] using h
  have hu := h.pos
  have hunit := h.unit
  have hone : (1 : ℚ) ≤ m := by exact_mod_cast hm
  have hlt : (m : ℚ) + 1 ≤ 2 ^ 53 := by exact_mod_cast hnumber.lt
  constructor
  · calc (10 : ℚ) ^ (-400 : ℤ) = (10 ^ (400 : ℤ))⁻¹ := zpow_neg 10 400
      _ ≤ (2 ^ (1200 : ℤ))⁻¹ := inv_anti₀ (by positivity) hpower
      _ = 2 ^ (-1200 : ℤ) := (zpow_neg 2 1200).symm
      _ ≤ 2 ^ (e - 1) := zpow_le_zpow_right₀ one_le_two (by omega)
      _ = 2 * u := h.half
      _ ≤ (4 * m - 2) * u := by gcongr; linarith
      _ ≤ v := h.le_of_low
  · calc v ≤ (4 * m + 2) * u := h.high
      _ ≤ (2 ^ 53 * 4) * u := by gcongr; linarith
      _ = 2 ^ 53 * 2 ^ e := by rw [hunit, mul_assoc]
      _ = 2 ^ (53 + e) := by rw [zpow_add₀ two_ne_zero]; norm_num
      _ ≤ 2 ^ (1200 : ℤ) := zpow_le_zpow_right₀ one_le_two (by omega)
      _ ≤ 10 ^ (400 : ℤ) := hpower
      _ < 10 ^ (401 : ℤ) := zpow_lt_zpow_right₀ (by norm_num) (by norm_num)

/-- The text of a finite number. -/
theorem render_ofMagnitude {f : BinaryFormat} (hnumber : f.IsNumber m e)
    (hfinite : f.pack m e < f.infinityBits) (negative : Bool) :
    (ofMagnitude negative (f.pack m e) : Binary f).render =
      String.ofList (signed negative
        (if m = 0 then "0.0".toList else (shortest f m e).render .standard)) := by
  rw [render, value_ofMagnitude hnumber hfinite]
  simp [signed]

/-- The text of a finite double denotes a decimal that is rounded to it. -/
theorem exists_writesDecimal (hnumber : BinaryFormat.double.IsNumber m e)
    (hfinite : BinaryFormat.double.pack m e < BinaryFormat.double.infinityBits) (negative : Bool) :
    ∃ v, WritesDecimal
        (if m = 0 then "0.0".toList else (shortest .double m e).render .standard) v ∧
      ∀ (c : ℕ) (x : ℤ), (c : ℚ) * 10 ^ x = v → (ofDecimal negative c x : Binary64) =
        ofMagnitude negative (BinaryFormat.double.pack m e) := by
  rcases m.eq_zero_or_pos with rfl | hm
  · have hzero : WritesDecimal ['0', '.', '0'] 0 := by
      have hwrites := writesDecimal_point (isDigits_replicate 1) (by simp)
        (isDigits_replicate 1) (by simp) readExponent?_nil
      rwa [← List.replicate_add, ofDigits_replicate, Nat.cast_zero, zero_mul] at hwrites
    refine ⟨0, hzero, fun c x hv => ?_⟩
    have hc : c = 0 := by
      rcases mul_eq_zero.mp hv with hc | hpow
      · exact_mod_cast hc
      · exact absurd hpow (by positivity)
    have he : e = BinaryFormat.double.leastExponent :=
      hnumber.leading.resolve_right (by simp)
    rw [hc, he]
    simp [ofDecimal, BinaryFormat.pack]
  · obtain ⟨hproper, hcontains⟩ := contains_shortest hnumber hm
    obtain ⟨hlow, hhigh⟩ := hcontains.reach hnumber hm hfinite
    have hrounds := rounds_of_contains hnumber hm hcontains
    rw [if_neg hm.ne']
    refine ⟨_, hproper.writesDecimal_render .standard, fun c x hv => ?_⟩
    rw [← hv] at hlow hhigh hrounds
    exact ofDecimal_of_rounds hlow hhigh hrounds hfinite negative

/-- **Reading back.** A finite double is read back from its text, which is not the text of an
integer. -/
theorem toBinary?_render {bits : ℕ} (hfinite : bits < BinaryFormat.double.infinityBits)
    (negative : Bool) :
    toBinary? .double (ofMagnitude negative bits : Binary64).render =
        some (ofMagnitude negative bits) ∧
      readInt? (ofMagnitude negative bits : Binary64).render.toList = none := by
  obtain ⟨m, e, hnumber, rfl⟩ := BinaryFormat.exists_isNumber .double bits
  obtain ⟨v, hwrites, hrounded⟩ := exists_writesDecimal hnumber hfinite negative
  obtain ⟨c, x, hread, hv⟩ := hwrites.read? negative
  rw [render_ofMagnitude hnumber hfinite, toBinary?, String.toList_ofList, hread]
  exact ⟨congrArg some (hrounded c x hv), hwrites.readInt? negative⟩

end Binary

end QueryGateway
