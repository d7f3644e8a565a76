import QueryGateway.Json.Reader
import QueryGateway.Proofs.Json.Strings
import QueryGateway.Proofs.Number.Products
import QueryGateway.Proofs.Number.ReadingBack

/-!
# Integers of JSON texts

An integer of a JSON text stays an integer if it has 64 bits, signed or not. Any other becomes
the double nearest to it, or, if not all of its digits fit into 64 bits, a double that is far
beyond them.
-/

namespace QueryGateway.Json

open Binary BinaryFormat

/-! ## Significands -/

/-- A significand with further digits. -/
def extended (significand : ℕ) (digits : List ℕ) : ℕ :=
  digits.foldl (fun acc d => acc * 10 + d) significand

/-- Digits do not make a significand smaller. -/
theorem le_extended (significand : ℕ) (digits : List ℕ) :
    significand ≤ extended significand digits := by
  induction digits generalizing significand with
  | nil => exact le_rfl
  | cons d digits ih =>
    calc significand ≤ significand * 10 + d := by omega
      _ ≤ extended (significand * 10 + d) digits := ih _

/-- Either all digits are taken, or the number and ten times the significand are too large. -/
theorem extend_eq_or {significand : ℕ} (hs : significand < significandLimit) {digits : List ℕ}
    (hdigits : ∀ d ∈ digits, d ≤ 9) :
    (extend significand digits = (extended significand digits, digits.length) ∧
        extended significand digits < significandLimit) ∨
      (significandLimit ≤ extended significand digits ∧
        (extend significand digits).2 < digits.length ∧
        (extend significand digits).1 < significandLimit ∧
        significandLimit ≤ (extend significand digits).1 * 10 + 9) := by
  induction digits generalizing significand with
  | nil => exact .inl ⟨rfl, hs⟩
  | cons d digits ih =>
    have hd : d ≤ 9 := hdigits d (by simp)
    rw [extend, extended, List.foldl_cons]
    by_cases hlt : significand * 10 + d < significandLimit
    · rw [if_pos hlt]
      have hothers : ∀ x ∈ digits, x ≤ 9 := fun x hx => hdigits x (by simp [hx])
      rcases ih hlt hothers with ⟨heq, hsmall⟩ | ⟨hlarge, htaken, hrest⟩
      · left
        rw [heq]
        exact ⟨rfl, hsmall⟩
      · right
        exact ⟨hlarge, Nat.succ_lt_succ htaken, hrest⟩
    · rw [if_neg hlt]
      right
      have hle := le_extended (significand * 10 + d) digits
      refine ⟨(not_lt.mp hlt).trans hle, by simp, hs, ?_⟩
      dsimp only
      omega

/-! ## Scaling -/

/-- What an integer of a JSON text is read as. -/
inductive IntegerNode (z : ℤ) : Tree → Prop where
  | exact : IntegerNode z (.int z)
  | rounded {bits : ℕ} (hz : z = 0 ∨ z < -2 ^ 63)
      (hbits : bits < BinaryFormat.double.infinityBits)
      (hrounds : BinaryFormat.double.Rounds z.natAbs bits) :
      IntegerNode z (.real (.ofMagnitude true bits))
  | scaled {negative : Bool} {bits : ℕ} {v : ℚ} (hz : 2 ^ 64 ≤ z.natAbs)
      (hbits : bits < BinaryFormat.double.infinityBits) (hv : 10 * 2 ^ 60 ≤ v)
      (hrounds : BinaryFormat.double.Rounds v bits) :
      IntegerNode z (.real (.ofMagnitude negative bits))

/-- A natural number that is not too large is rounded to a finite number. -/
theorem exists_number {n most bits : ℕ} (hn : n ≤ most)
    (hmost : BinaryFormat.double.roundRatio most 1 = bits)
    (hbits : bits < BinaryFormat.double.infinityBits) :
    ∃ m e, BinaryFormat.double.IsNumber m e ∧
      BinaryFormat.double.pack m e < BinaryFormat.double.infinityBits ∧
      BinaryFormat.double.Rounds n (BinaryFormat.double.pack m e) ∧
      (ofRatio false n 1 : Binary64) = ofMagnitude false (BinaryFormat.double.pack m e) := by
  obtain ⟨bits', hbits', hround⟩ := exists_ofRatio_eq .double n
  have hle : bits' ≤ bits := hbits'.mono (rounds_of_roundRatio hmost hbits) (by exact_mod_cast hn)
  obtain ⟨m, e, hnumber, rfl⟩ := exists_isNumber .double bits'
  rw [min_eq_right (by omega)] at hround
  exact ⟨m, e, hnumber, by omega, hbits', hround false⟩

/-- A power of ten that is taken at once is rounded to a finite number. -/
theorem roundRatio_ten_pow : BinaryFormat.double.roundRatio (10 ^ 308) 1 = 0x7FE1CCF385EBC8A0 := by
  decide +kernel

/-- Scaling by a power of ten that is taken at once is a multiplication. -/
theorem scaleByTen_natCast {k : ℕ} (hk : k ≤ 308) (x : Binary64) :
    scaleByTen x k =
      if (x.mul (powerOfTen k)).isFinite then some (x.mul (powerOfTen k)) else none := by
  have habs : (k : ℤ).natAbs ≤ 308 := hk
  have hnonneg : (0 : ℤ) ≤ k := Int.natCast_nonneg k
  rw [scaleByTen, if_pos habs, if_pos hnonneg]
  rfl

/-- A significand is scaled by the product of two numbers. -/
theorem exists_scaleByTen {n k : ℕ} (hn : n < significandLimit) (hk : k ≤ 308) :
    ∃ m e p d bits, BinaryFormat.double.IsNumber m e ∧ BinaryFormat.double.IsNumber p d ∧
      BinaryFormat.double.pack m e < BinaryFormat.double.infinityBits ∧
      BinaryFormat.double.pack p d < BinaryFormat.double.infinityBits ∧
      BinaryFormat.double.Rounds n (BinaryFormat.double.pack m e) ∧
      BinaryFormat.double.Rounds (10 ^ k : ℕ) (BinaryFormat.double.pack p d) ∧
      BinaryFormat.double.Rounds (m * 2 ^ e * (p * 2 ^ d)) bits ∧
      scaleByTen (.ofRatio false n 1) k =
        if bits < BinaryFormat.double.infinityBits then some (ofMagnitude false bits)
        else none := by
  have hlimit : BinaryFormat.double.roundRatio significandLimit 1 = 0x43F0000000000000 := by
    decide
  obtain ⟨m, e, hm, hmfinite, hmrounds, hmeq⟩ := exists_number hn.le hlimit (by decide)
  have hpow {j : ℕ} (hj : k ≤ j) : 10 ^ k ≤ 10 ^ j := Nat.pow_le_pow_right (by decide) hj
  obtain ⟨p, d, hp, hpfinite, hprounds, hpeq⟩ :=
    exists_number (hpow hk) roundRatio_ten_pow (by decide)
  obtain ⟨bits, hbits, hmul⟩ := exists_mul_eq hm hp hmfinite hpfinite
  refine ⟨m, e, p, d, bits, hm, hp, hmfinite, hpfinite, hmrounds, hprounds, hbits, ?_⟩
  have hleast := min_le_left BinaryFormat.double.infinityBits bits
  rw [scaleByTen_natCast hk, hmeq, powerOfTen, hpeq, hmul]
  by_cases hfinite : bits < BinaryFormat.double.infinityBits
  · rw [min_eq_right hfinite.le, if_pos ((isFinite_ofMagnitude hfinite.le false).mpr hfinite),
      if_pos hfinite]
  · have hinfinite :
        ¬ min BinaryFormat.double.infinityBits bits < BinaryFormat.double.infinityBits := by
      simp [hfinite]
    rw [if_neg (mt (isFinite_ofMagnitude hleast false).mp hinfinite), if_neg hfinite]

/-- A number takes on its sign after it was scaled. -/
theorem finish_of_scaleByTen {n : ℕ} {x : ℤ} {y : Binary64}
    (h : scaleByTen (.ofRatio false n 1) x = some y) (negative : Bool) (i : Input) :
    finish negative n x i = .ok (.real (if negative then y.negate else y), i) := by
  rw [finish, h]

/-- A significand that is not scaled is rounded only. -/
theorem finish_zero {n : ℕ} (hn : n < significandLimit) (i : Input) :
    ∃ bits < BinaryFormat.double.infinityBits, BinaryFormat.double.Rounds n bits ∧
      finish true n 0 i = .ok (.real (ofMagnitude true bits), i) := by
  obtain ⟨m, e, p, d, bits, hm, hp, hmfinite, hpfinite, hmrounds, hprounds, hbits, hscale⟩ :=
    exists_scaleByTen hn (Nat.zero_le _)
  have hone : (p : ℚ) * 2 ^ d = 1 := by
    have hunit : BinaryFormat.double.IsNumber (2 ^ 52) (-52) :=
      ⟨by decide, by decide, .inr (by decide)⟩
    have hvalue : ((2 ^ 52 : ℕ) : ℚ) * (2 : ℚ) ^ (-52 : ℤ) = 1 := by norm_num
    have hrounds := hunit.rounds
    rw [hvalue] at hrounds
    have hpack := hprounds.unique (by simpa using hrounds)
    obtain ⟨rfl, rfl⟩ := eq_of_pack_eq hp hunit hpfinite hpack
    exact hvalue
  rw [hone, mul_one] at hbits
  obtain rfl := hbits.unique hm.rounds
  rw [if_pos hmfinite] at hscale
  have hfinish := finish_of_scaleByTen hscale true i
  rw [Nat.cast_zero, if_pos rfl, negate_ofMagnitude hmfinite.le, Bool.not_false] at hfinish
  exact ⟨_, hmfinite, hmrounds, hfinish⟩

/-- A power of ten beyond `10 ^ 308` makes a significand too large. -/
theorem scaleByTen_eq_none {n k : ℕ} (hlarge : 2 ^ 60 ≤ n) (hk : 308 < k) :
    scaleByTen (.ofRatio false n 1) k = none := by
  obtain ⟨bits, hbits, hround⟩ := exists_ofRatio_eq .double n
  have hlow : 0x43B0000000000000 ≤ bits :=
    (rounds_of_roundRatio (n := 2 ^ 60) (by decide) (by decide)).mono hbits
      (by exact_mod_cast hlarge)
  have hzero : (ofRatio false n 1 : Binary64).isZero = false := by
    rw [hround, isZero, magnitude_ofMagnitude
      ((min_le_left _ _).trans_lt (infinityBits_lt_signWeight _)), beq_eq_false_iff_ne]
    have hinfinity : 0 < BinaryFormat.double.infinityBits := by decide
    omega
  rw [scaleByTen, if_neg (by omega), hzero, if_neg Bool.false_ne_true, if_pos (by omega)]

/-- A large significand times a power of ten is ten times as large at least. -/
theorem exists_of_scaleByTen {n k : ℕ} {y : Binary64} (hn : n < significandLimit)
    (hlarge : 2 ^ 60 ≤ n) (hk : 0 < k) (h : scaleByTen (.ofRatio false n 1) k = some y) :
    ∃ (v : ℚ) (bits : ℕ), 10 * 2 ^ 60 ≤ v ∧ BinaryFormat.double.Rounds v bits ∧
      bits < BinaryFormat.double.infinityBits ∧ y = ofMagnitude false bits := by
  have hk308 : k ≤ 308 := by
    by_contra hlt
    rw [scaleByTen_eq_none hlarge (not_le.mp hlt)] at h
    cases h
  obtain ⟨m, e, p, d, bits, hm, hp, hmfinite, hpfinite, hmrounds, hprounds, hbits, hscale⟩ :=
    exists_scaleByTen hn hk308
  have hsignificand : (2 : ℚ) ^ 60 ≤ m * 2 ^ e := by
    have hnumber : BinaryFormat.double.IsNumber (2 ^ 52) 8 :=
      ⟨by decide, by decide, .inr (by decide)⟩
    have hvalue : ((2 ^ 52 : ℕ) : ℚ) * (2 : ℚ) ^ (8 : ℤ) = 2 ^ 60 := by norm_num
    have hle : (2 : ℚ) ^ 60 ≤ n := by exact_mod_cast hlarge
    rw [← hvalue] at hle ⊢
    exact le_of_rounds hnumber hm hmfinite hle hmrounds
  have hpower : (10 : ℚ) ≤ p * 2 ^ d := by
    have hnumber : BinaryFormat.double.IsNumber (10 * 2 ^ 49) (-49) :=
      ⟨by decide, by decide, .inr (by decide)⟩
    have hvalue : ((10 * 2 ^ 49 : ℕ) : ℚ) * (2 : ℚ) ^ (-49 : ℤ) = 10 := by norm_num
    have hle : (10 : ℚ) ≤ (10 ^ k : ℕ) := by exact_mod_cast Nat.le_self_pow hk.ne' 10
    rw [← hvalue] at hle ⊢
    exact le_of_rounds hnumber hp hpfinite hle hprounds
  rw [h] at hscale
  by_cases hfinite : bits < BinaryFormat.double.infinityBits
  · rw [if_pos hfinite] at hscale
    refine ⟨_, bits, ?_, hbits, hfinite, Option.some.inj hscale⟩
    calc (10 : ℚ) * 2 ^ 60 = 2 ^ 60 * 10 := mul_comm _ _
      _ ≤ m * 2 ^ e * (p * 2 ^ d) := by gcongr
  · rw [if_neg hfinite] at hscale
    cases hscale

/-- A significand of which digits were dropped is scaled beyond 64 bits. -/
theorem exists_of_finish {n k : ℕ} {negative : Bool} {i after : Input} {t : Tree}
    (hn : n < significandLimit) (hlarge : significandLimit ≤ n * 10 + 9) (hk : 0 < k)
    (h : finish negative n k i = .ok (t, after)) :
    after = i ∧ ∃ (v : ℚ) (bits : ℕ), 10 * 2 ^ 60 ≤ v ∧ BinaryFormat.double.Rounds v bits ∧
      bits < BinaryFormat.double.infinityBits ∧ t = .real (ofMagnitude negative bits) := by
  have hpositive : 2 ^ 60 ≤ n := by
    rw [significandLimit] at hlarge
    omega
  obtain ⟨y, hscale⟩ : ∃ y, scaleByTen (.ofRatio false n 1) k = some y := by
    by_contra hnone
    rw [finish, Option.eq_none_iff_forall_ne_some.mpr (not_exists.mp hnone)] at h
    cases h
  rw [finish_of_scaleByTen hscale] at h
  obtain ⟨rfl, rfl⟩ := Prod.mk.inj (Except.ok.inj h)
  obtain ⟨v, bits, hv, hrounds, hfinite, rfl⟩ := exists_of_scaleByTen hn hpositive hk hscale
  refine ⟨rfl, v, bits, hv, hrounds, hfinite, ?_⟩
  cases negative with
  | true => rw [if_pos rfl, negate_ofMagnitude hfinite.le, Bool.not_false]
  | false => rw [if_neg Bool.false_ne_true]

/-! ## Digits -/

variable {i after : Input} {s digits : List Char} {c : Char} {n : ℕ} {t : Tree} {negative : Bool}

/-- The byte of a digit. -/
theorem digit_byte (hc : Text.isAsciiDigit c = true) :
    c.toNat < 0x80 ∧ isDigitByte (UInt8.ofNat c.toNat) = true ∧
      (UInt8.ofNat c.toNat).toNat = c.toNat ∧ c.toNat - 48 ≤ 9 := by
  have hle {a b : Char} : a ≤ b ↔ a.toNat ≤ b.toNat := Iff.rfl
  have hbounds : 48 ≤ c.toNat ∧ c.toNat ≤ 57 := by
    simpa [Text.isAsciiDigit, hle] using hc
  have hbyte : (UInt8.ofNat c.toNat).toNat = c.toNat := by
    rw [UInt8.toNat_ofNat']
    omega
  refine ⟨by omega, ?_, hbyte, by omega⟩
  simpa [isDigitByte, UInt8.le_iff_toNat_le, hbyte] using hbounds

/-- Digits are single bytes. -/
theorem encode_digits (hs : Number.IsDigits s) :
    Utf8.encode s = s.map fun c => UInt8.ofNat c.toNat := by
  induction s with
  | nil => rfl
  | cons c s ih =>
    have hc := digit_byte (hs c (by simp))
    rw [Utf8.encode_cons, Utf8.encodeChar_of_ascii hc.1, ih (hs.mono (List.subset_cons_self c s))]
    rfl

/-- The digits that stand next are those of the text, if nothing else is left. -/
theorem nextDigits_of_shows (hi : i.Shows s) (hs : Number.IsDigits s) :
    nextDigits i = s.map fun c => c.toNat - 48 := by
  have hall : ∀ b ∈ s.map (fun c => UInt8.ofNat c.toNat), isDigitByte b = true := by
    intro b hb
    obtain ⟨c, hc, rfl⟩ := List.mem_map.mp hb
    exact (digit_byte (hs c hc)).2.1
  rw [nextDigits, hi, encode_digits hs, List.takeWhile_eq_self_iff.mpr hall, List.map_map]
  refine List.map_congr_left fun c hc => ?_
  rw [Function.comp_apply, (digit_byte (hs c hc)).2.2.1]

/-- Digits are worth the same one by one and as a significand. -/
theorem extended_digits (s : List Char) :
    extended 0 (s.map fun c => c.toNat - 48) = Number.ofDigits s := by
  rw [extended, List.foldl_map, Number.ofDigits]

/-- At the end of the input a number is finished. -/
theorem readAfterInteger_end (hi : i.rest = []) (significand dropped : ℕ) :
    readAfterInteger negative significand dropped i =
      if dropped ≠ 0 then finish negative significand dropped i
      else if negative = false then .ok (.int significand, i)
      else if significand = 0 ∨ 2 ^ 63 < significand then finish true significand 0 i
      else .ok (.int (-(significand : ℤ)), i) := by
  have hpeek : i.peek? = none := by rw [Input.peek?, hi]; rfl
  rw [readAfterInteger, hpeek]
  simp

/-- An integer whose digits are all taken is read exactly or rounded. -/
theorem integerNode_of_taken (hi : i.rest = []) (hn : n < significandLimit)
    (h : readAfterInteger negative n 0 i = .ok (t, after)) :
    after.rest = [] ∧ IntegerNode (if negative then -(n : ℤ) else n) t := by
  rw [readAfterInteger_end hi, if_neg (by simp)] at h
  cases negative with
  | false =>
    obtain ⟨rfl, rfl⟩ := Prod.mk.inj (Except.ok.inj h)
    exact ⟨hi, .exact⟩
  | true =>
    rw [if_neg (by simp)] at h
    split at h
    · next hreal =>
      obtain ⟨bits, hfinite, hrounds, hfinish⟩ := finish_zero hn i
      rw [hfinish] at h
      obtain ⟨rfl, rfl⟩ := Prod.mk.inj (Except.ok.inj h)
      rw [if_pos rfl]
      have habs : (-(n : ℤ)).natAbs = n := by omega
      exact ⟨hi, .rounded (by omega) hfinite (by rwa [habs])⟩
    · obtain ⟨rfl, rfl⟩ := Prod.mk.inj (Except.ok.inj h)
      exact ⟨hi, .exact⟩

/-- An integer with digits that are dropped is scaled. -/
theorem integerNode_of_dropped {significand dropped : ℕ} (hi : i.rest = [])
    (hn : significandLimit ≤ n) (hs : significand < significandLimit)
    (hlarge : significandLimit ≤ significand * 10 + 9) (hdropped : 0 < dropped)
    (h : readAfterInteger negative significand dropped i = .ok (t, after)) :
    after.rest = [] ∧ IntegerNode (if negative then -(n : ℤ) else n) t := by
  rw [readAfterInteger_end hi, if_pos hdropped.ne'] at h
  obtain ⟨rfl, v, bits, hv, hrounds, hfinite, rfl⟩ := exists_of_finish hs hlarge hdropped h
  have habs : (if negative then -(n : ℤ) else n).natAbs = n := by
    cases negative <;> simp
  exact ⟨hi, .scaled (by rwa [habs]) hfinite hv hrounds⟩

/-- Behind a leading zero no digit may stand. -/
theorem readNumber_zero (hi : i.Shows ('0' :: s)) (hs : Number.IsDigits s)
    (h : readNumber negative i = .ok (t, after)) :
    s = [] ∧ readAfterInteger negative 0 0 i.advance = .ok (t, after) := by
  have hrest := hi.advance (by decide)
  rw [readNumber, hi.next? (by decide)] at h
  cases s with
  | nil =>
    have hpeek : i.advance.peek? = none := by rw [Input.peek?, hrest]; rfl
    exact ⟨rfl, by simpa [hpeek] using h⟩
  | cons d s =>
    have hd := digit_byte (hs d (by simp))
    have hpeek : i.advance.peek? = some (UInt8.ofNat d.toNat) := by
      rw [Input.peek?, hrest.rest_of_ascii hd.1]
      rfl
    simp [hpeek, hd.2.1] at h

/-- Digits without a leading zero are taken as a significand. -/
theorem readNumber_digits (hi : i.Shows (c :: s)) (hs : Number.IsDigits (c :: s)) (hc : c ≠ '0') :
    readNumber negative i =
      let taken := extend 0 ((c :: s).map fun c => c.toNat - 48)
      readAfterInteger negative taken.1 ((c :: s).length - taken.2)
        (Input.advanceBy (c :: s).length i) := by
  have hbyte := digit_byte (hs c (by simp))
  have hzero : (UInt8.ofNat c.toNat == 0x30) = false := by
    rw [beq_eq_false_iff_ne]
    intro heq
    apply hc
    rw [← Char.toNat_inj, ← hbyte.2.2.1, heq]
    rfl
  rw [readNumber, hi.next? hbyte.1]
  simp only [hzero, hbyte.2.1, nextDigits_of_shows hi hs, List.length_map, Bool.false_eq_true,
    if_false, if_true]

/-- An integer is read, after its sign, as the number that it denotes. -/
theorem readNumber_of_isNumeral (hi : i.Shows digits) (hdigits : Number.IsNumeral digits n)
    (h : readNumber negative i = .ok (t, after)) :
    after.rest = [] ∧ IntegerNode (if negative then -(n : ℤ) else n) t := by
  have hall : Number.IsDigits digits := hdigits.all_digits
  have hend : (Input.advanceBy digits.length i).rest = [] := by
    rw [Input.rest_advanceBy, hi, encode_digits hall, List.drop_eq_nil_of_le (by simp)]
  obtain ⟨c, s, rfl⟩ := List.exists_cons_of_ne_nil hdigits.ne_nil
  by_cases hc : c = '0'
  · subst hc
    obtain ⟨rfl, h⟩ := readNumber_zero hi (hall.mono (List.subset_cons_self _ s)) h
    obtain rfl : 0 = n := hdigits.value
    exact integerNode_of_taken (hi.advance (by decide)) (by decide) h
  · rw [readNumber_digits hi hall hc] at h
    have hsmall : ∀ d ∈ (c :: s).map (fun c => c.toNat - 48), d ≤ 9 := by
      intro d hd
      obtain ⟨x, hx, rfl⟩ := List.mem_map.mp hd
      exact (digit_byte (hall x hx)).2.2.2
    have hvalue := (extended_digits (c :: s)).trans hdigits.value
    have hlength : ((c :: s).map fun c => c.toNat - 48).length = (c :: s).length := by simp
    have hstart : 0 < significandLimit := by decide
    dsimp only at h
    rcases extend_eq_or hstart hsmall with ⟨hextend, hlt⟩ | ⟨hlarge, htaken, hs, hrest⟩
    · rw [hvalue] at hextend hlt
      rw [hextend, hlength, Nat.sub_self] at h
      exact integerNode_of_taken hend hlt h
    · rw [hvalue] at hlarge
      rw [hlength] at htaken
      exact integerNode_of_dropped hend hlarge hs hrest (by omega) h

/-! ## Whole texts -/

/-- No blank is passed over where none stands. -/
theorem skipBlanks_of_shows (hi : i.Shows (c :: s)) (hc : c.toNat < 0x80)
    (hblank : Input.isBlankByte (UInt8.ofNat c.toNat) = false) : i.skipBlanks = i := by
  have hnone : i.blanks = 0 := by
    rw [Input.blanks, hi.rest_of_ascii hc, List.takeWhile_cons_of_neg (by simp [hblank])]
    rfl
  rw [Input.skipBlanks, hnone]
  rfl

/-- What a text is read as is what stands at its beginning. -/
theorem exists_of_readText {text : String} (h : readText text = .ok t) :
    ∃ fuel depth i after, i.Shows text.toList ∧ readValue (fuel + 1) depth i = .ok (t, after) := by
  rw [readText, read] at h
  refine ⟨2 * (Utf8.ofString text).length + 1, depthLimit, ⟨Utf8.ofString text, 1, 0⟩, ?_⟩
  cases hread : readValue (2 * (Utf8.ofString text).length + 2) depthLimit
      ⟨Utf8.ofString text, 1, 0⟩ with
  | error e =>
    rw [hread] at h
    cases h
  | ok found =>
    obtain ⟨t', after⟩ := found
    rw [hread] at h
    simp only [bind, Except.bind] at h
    split at h
    · obtain rfl := Except.ok.inj h
      exact ⟨after, rfl, rfl⟩
    · cases h

/-- A digit opens a number. -/
theorem readValue_digit {fuel depth : ℕ} (hi : i.Shows (c :: s))
    (hc : Text.isAsciiDigit c = true) : readValue (fuel + 1) depth i = readNumber false i := by
  obtain ⟨hascii, hdigit, -, -⟩ := digit_byte hc
  have hpeek : i.peek? = some (UInt8.ofNat c.toNat) := by
    rw [Input.peek?, hi.rest_of_ascii hascii]
    rfl
  have hne {b : UInt8} (hb : isDigitByte b = false) : (UInt8.ofNat c.toNat == b) = false := by
    rw [beq_eq_false_iff_ne]
    rintro rfl
    rw [hdigit] at hb
    cases hb
  have hblank : Input.isBlankByte (UInt8.ofNat c.toNat) = false := by
    simp [Input.isBlankByte, -beq_eq_false_iff_ne, hne (b := 0x20) (by decide),
      hne (b := 0x09) (by decide), hne (b := 0x0A) (by decide), hne (b := 0x0D) (by decide)]
  rw [readValue, skipBlanks_of_shows hi hascii hblank, hpeek]
  simp only [hne (b := 0x6E) (by decide), hne (b := 0x74) (by decide),
    hne (b := 0x66) (by decide), hne (b := 0x2D) (by decide), hdigit,
    Bool.false_eq_true, if_false, if_true]

/-- **Integers of JSON texts.** An integer that a JSON text is made of is read exactly, rounded
or scaled. -/
theorem integerNode_of_readText {text : String} {z : ℤ} (hz : Number.IsInteger text.toList z)
    (h : readText text = .ok t) : IntegerNode z t := by
  obtain ⟨fuel, depth, i, after, hi, hread⟩ := exists_of_readText h
  generalize text.toList = chars at hz hi
  cases hz with
  | plain hdigits =>
    obtain ⟨c, s, rfl⟩ := List.exists_cons_of_ne_nil hdigits.ne_nil
    rw [readValue_digit hi (hdigits.all_digits c (by simp))] at hread
    exact (readNumber_of_isNumeral hi hdigits hread).2
  | plus hdigits =>
    have hpeek : i.peek? = some 0x2B := by
      rw [Input.peek?, hi.rest_of_ascii (by decide)]
      rfl
    rw [readValue, skipBlanks_of_shows hi (by decide) (by decide), hpeek] at hread
    cases hread
  | minus hdigits =>
    have hpeek : i.peek? = some 0x2D := by
      rw [Input.peek?, hi.rest_of_ascii (by decide)]
      rfl
    rw [readValue, skipBlanks_of_shows hi (by decide) (by decide), hpeek] at hread
    exact (readNumber_of_isNumeral (hi.advance (by decide)) hdigits hread).2

end QueryGateway.Json
