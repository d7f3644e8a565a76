import Mathlib.Tactic.SplitIfs
import QueryGateway.Text.Utf8

/-!
# The round trip of UTF-8

Every text is read back from its UTF-8 form. The form of a character is a lead byte,
which determines how many continuation bytes follow and where the first of them lies,
and the bytes after the first all have their high bit set.
-/

namespace QueryGateway.Utf8

/-! ## Encoding -/

@[simp] theorem encode_nil : encode [] = [] := rfl

@[simp] theorem encode_cons (c : Char) (s : List Char) :
    encode (c :: s) = String.utf8EncodeChar c ++ encode s := rfl

@[simp] theorem encode_append (s t : List Char) : encode (s ++ t) = encode s ++ encode t :=
  List.flatMap_append

/-- The end of a text has no more bytes than the text. -/
theorem length_encode_le {s t : List Char} (h : t <:+ s) :
    (encode t).length ≤ (encode s).length := by
  obtain ⟨front, rfl⟩ := h
  rw [encode_append, List.length_append]
  omega

/-- An ASCII character is one byte. -/
theorem encodeChar_of_ascii {c : Char} (hc : c.toNat < 0x80) :
    String.utf8EncodeChar c = [UInt8.ofNat c.toNat] := by
  have hle : c.val.toNat ≤ 0x7F := by
    change c.toNat ≤ 0x7F
    omega
  rw [String.utf8EncodeChar, if_pos hle]
  rfl

/-- Every byte of a character beyond ASCII has its high bit set. -/
theorem le_of_mem_encodeChar {c : Char} (hc : 0x80 ≤ c.toNat) {b : UInt8}
    (hb : b ∈ String.utf8EncodeChar c) : 0x80 ≤ b.toNat := by
  have hone : ¬ c.val.toNat ≤ 0x7F := by
    change ¬ c.toNat ≤ 0x7F
    omega
  rw [String.utf8EncodeChar] at hb
  simp only [if_neg hone] at hb
  split_ifs at hb
  · simp only [List.mem_cons, List.not_mem_nil, or_false] at hb
    rcases hb with rfl | rfl <;> rw [UInt8.toNat_ofNat'] <;> omega
  · simp only [List.mem_cons, List.not_mem_nil, or_false] at hb
    rcases hb with rfl | rfl | rfl <;> rw [UInt8.toNat_ofNat'] <;> omega
  · simp only [List.mem_cons, List.not_mem_nil, or_false] at hb
    rcases hb with rfl | rfl | rfl | rfl <;> rw [UInt8.toNat_ofNat'] <;> omega

/-- Bytes below 0x80 are the form of the characters with their numbers. -/
theorem encode_map_ofNat {bytes : Bytes} (h : ∀ b ∈ bytes, b.toNat < 0x80) :
    encode (bytes.map fun b => Char.ofNat b.toNat) = bytes := by
  induction bytes with
  | nil => rfl
  | cons b bytes ih =>
    rw [List.forall_mem_cons] at h
    have hnumber : (Char.ofNat b.toNat).toNat = b.toNat := by
      rw [Char.ofNat, dif_pos (.inl (by omega))]
      rfl
    rw [List.map_cons, encode_cons, ih h.2, encodeChar_of_ascii (by omega), hnumber]
    simp

/-- A test of bytes and one of characters that agree on ASCII and that nothing beyond it
passes. -/
structure IsAsciiTest (ofByte : UInt8 → Bool) (ofChar : Char → Bool) : Prop where
  ascii : ∀ n : Fin 128, ofByte (UInt8.ofNat n) = ofChar (Char.ofNat n)
  byte : ∀ b : UInt8, 0x80 ≤ b.toNat → ofByte b = false
  char : ∀ c : Char, 0x80 ≤ c.toNat → ofChar c = false

namespace IsAsciiTest

variable {ofByte : UInt8 → Bool} {ofChar : Char → Bool}

/-- Every byte of a character passes just if the character does. -/
theorem of_mem_encodeChar (h : IsAsciiTest ofByte ofChar) {c : Char} {b : UInt8}
    (hb : b ∈ String.utf8EncodeChar c) : ofByte b = ofChar c := by
  by_cases hc : c.toNat < 0x80
  · have hsame := h.ascii ⟨c.toNat, hc⟩
    rw [encodeChar_of_ascii hc, List.mem_singleton] at hb
    rwa [Char.ofNat_toNat, ← hb] at hsame
  · have hc : 0x80 ≤ c.toNat := by omega
    rw [h.byte b (le_of_mem_encodeChar hc hb), h.char c hc]

/-- The first byte of a text passes just if the first character does. -/
theorem any_head? (h : IsAsciiTest ofByte ofChar) (s : List Char) :
    (encode s).head?.any ofByte = s.head?.any ofChar := by
  cases s with
  | nil => rfl
  | cons c s =>
    obtain ⟨b, bytes, hbytes⟩ := List.exists_cons_of_ne_nil (String.utf8EncodeChar_ne_nil (c := c))
    rw [encode_cons, hbytes]
    exact h.of_mem_encodeChar (hbytes ▸ List.mem_cons_self)

/-- The last byte of a text passes just if the last character does. -/
theorem any_getLast? (h : IsAsciiTest ofByte ofChar) (s : List Char) :
    (encode s).getLast?.any ofByte = s.getLast?.any ofChar := by
  rcases s.eq_nil_or_concat with rfl | ⟨front, c, rfl⟩
  · rfl
  · have hne : String.utf8EncodeChar c ≠ [] := String.utf8EncodeChar_ne_nil
    have hlast := h.of_mem_encodeChar (List.getLast_mem hne)
    simp [List.getLast?_append, List.getLast?_eq_some_getLast hne, hlast]

end IsAsciiTest

/-! ## Lead bytes -/

theorem following?_two {lead : UInt8} (hlo : 0xC2 ≤ lead.toNat) (hhi : lead.toNat ≤ 0xDF) :
    following? lead = some (1, 0x80, 0xBF) := by
  have hlo : (0xC2 : UInt8) ≤ lead := UInt8.le_iff_toNat_le.mpr hlo
  have hhi : lead ≤ 0xDF := UInt8.le_iff_toNat_le.mpr hhi
  simp [following?, hlo, hhi]

/-- The lead byte of a character of three bytes admits the byte after it, because the
character is no surrogate. -/
theorem following?_three {v : Nat} {lead second : UInt8} (hlead : lead.toNat = v / 4096 + 0xE0)
    (hsecond : second.toNat = v / 64 % 64 + 0x80) (hlo : 0x800 ≤ v) (hhi : v ≤ 0xFFFF)
    (hsurrogate : v < 0xD800 ∨ 0xDFFF < v) :
    ∃ lo hi, following? lead = some (2, lo, hi) ∧ lo ≤ second ∧ second ≤ hi := by
  unfold following?
  simp only [UInt8.le_iff_toNat_le, ← UInt8.toNat_inj, beq_iff_eq, Bool.and_eq_true,
    decide_eq_true_eq, UInt8.reduceToNat]
  rw [if_neg (by omega)]
  split
  · exact ⟨_, _, rfl, by simp; omega, by simp; omega⟩
  · split
    · exact ⟨_, _, rfl, by simp; omega, by simp; omega⟩
    · rw [if_pos (by omega)]
      exact ⟨_, _, rfl, by simp; omega, by simp; omega⟩

/-- The lead byte of a character of four bytes admits the byte after it, because the
character is not too large. -/
theorem following?_four {v : Nat} {lead second : UInt8} (hlead : lead.toNat = v / 262144 + 0xF0)
    (hsecond : second.toNat = v / 4096 % 64 + 0x80) (hlo : 0x10000 ≤ v) (hhi : v < 0x110000) :
    ∃ lo hi, following? lead = some (3, lo, hi) ∧ lo ≤ second ∧ second ≤ hi := by
  unfold following?
  simp only [UInt8.le_iff_toNat_le, ← UInt8.toNat_inj, beq_iff_eq, Bool.and_eq_true,
    decide_eq_true_eq, UInt8.reduceToNat]
  rw [if_neg (by omega), if_neg (by omega), if_neg (by omega), if_neg (by omega)]
  split
  · exact ⟨_, _, rfl, by simp; omega, by simp; omega⟩
  · split
    · exact ⟨_, _, rfl, by simp; omega, by simp; omega⟩
    · rw [if_pos (by omega)]
      exact ⟨_, _, rfl, by simp; omega, by simp; omega⟩

/-! ## Continuation bytes -/

theorem continuation_zero (lo hi : UInt8) (rest : Bytes) : continuation 0 lo hi rest = [] := by
  cases rest <;> rfl

theorem continuation_cons {n : Nat} {lo hi b : UInt8} (hlo : lo ≤ b) (hhi : b ≤ hi)
    (rest : Bytes) :
    continuation (n + 1) lo hi (b :: rest) = b :: continuation n 0x80 0xBF rest := by
  simp [continuation, hlo, hhi]

/-- The byte with six data bits. -/
theorem toNat_continuation (n : Nat) : (UInt8.ofNat (n % 0x40 + 0x80)).toNat = n % 64 + 0x80 := by
  rw [UInt8.toNat_ofNat']
  omega

theorem le_continuation (n : Nat) : 0x80 ≤ UInt8.ofNat (n % 0x40 + 0x80) := by
  rw [UInt8.le_iff_toNat_le, toNat_continuation]
  simp

theorem continuation_le (n : Nat) : UInt8.ofNat (n % 0x40 + 0x80) ≤ 0xBF := by
  rw [UInt8.le_iff_toNat_le, toNat_continuation]
  simp only [UInt8.reduceToNat]
  omega

/-! ## Characters -/

/-- A lead byte with all its continuation bytes is a character. -/
theorem front_of_following {n v : Nat} {lead lo hi : UInt8} {tail rest : Bytes}
    (hlead : 0x80 ≤ lead.toNat) (hfollowing : following? lead = some (n, lo, hi))
    (hlength : tail.length = n) (htail : continuation n lo hi (tail ++ rest) = tail)
    (hvalue : assemble (leadBits lead n) tail = v) :
    front lead (tail ++ rest) = .char (Char.ofNat v) n := by
  have hascii : ¬ lead < 0x80 := by
    rw [UInt8.lt_iff_toNat_lt]
    simp only [UInt8.reduceToNat]
    omega
  simp [front, hascii, hfollowing, htail, hlength, hvalue]

theorem front_one {v : Nat} (hv : v ≤ 0x7F) (rest : Bytes) :
    front (UInt8.ofNat v) rest = .char (Char.ofNat v) 0 := by
  have hlead : (UInt8.ofNat v).toNat = v := by
    rw [UInt8.toNat_ofNat']
    omega
  have hascii : UInt8.ofNat v < 0x80 := by
    rw [UInt8.lt_iff_toNat_lt, hlead]
    simp only [UInt8.reduceToNat]
    omega
  rw [front, if_pos hascii, hlead]

theorem front_two {v : Nat} (hlo : 0x7F < v) (hhi : v ≤ 0x7FF) (rest : Bytes) :
    front (UInt8.ofNat (v / 64 % 0x20 + 0xC0)) ([UInt8.ofNat (v % 0x40 + 0x80)] ++ rest) =
      .char (Char.ofNat v) 1 := by
  have hlead : (UInt8.ofNat (v / 64 % 0x20 + 0xC0)).toNat = v / 64 + 0xC0 := by
    rw [UInt8.toNat_ofNat']
    omega
  apply front_of_following (by omega) (following?_two (by omega) (by omega)) rfl
  · rw [List.cons_append, continuation_cons (le_continuation v) (continuation_le v),
      continuation_zero]
  · simp only [assemble, leadBits, List.foldl_cons, List.foldl_nil, hlead, toNat_continuation,
      Nat.reduceSub, Nat.reducePow]
    omega

theorem front_three {v : Nat} (hlo : 0x7FF < v) (hhi : v ≤ 0xFFFF)
    (hsurrogate : v < 0xD800 ∨ 0xDFFF < v) (rest : Bytes) :
    front (UInt8.ofNat (v / 4096 % 0x10 + 0xE0))
      ([UInt8.ofNat (v / 64 % 0x40 + 0x80), UInt8.ofNat (v % 0x40 + 0x80)] ++ rest) =
      .char (Char.ofNat v) 2 := by
  have hlead : (UInt8.ofNat (v / 4096 % 0x10 + 0xE0)).toNat = v / 4096 + 0xE0 := by
    rw [UInt8.toNat_ofNat']
    omega
  obtain ⟨lo, hi, hfollowing, hsecond, hsecond'⟩ :=
    following?_three hlead (toNat_continuation (v / 64)) hlo hhi hsurrogate
  apply front_of_following (by omega) hfollowing rfl
  · rw [List.cons_append, List.cons_append, continuation_cons hsecond hsecond',
      continuation_cons (le_continuation v) (continuation_le v), continuation_zero]
  · simp only [assemble, leadBits, List.foldl_cons, List.foldl_nil, hlead, toNat_continuation,
      Nat.reduceSub, Nat.reducePow]
    omega

theorem front_four {v : Nat} (hlo : 0xFFFF < v) (hhi : v < 0x110000) (rest : Bytes) :
    front (UInt8.ofNat (v / 262144 % 0x08 + 0xF0))
      ([UInt8.ofNat (v / 4096 % 0x40 + 0x80), UInt8.ofNat (v / 64 % 0x40 + 0x80),
        UInt8.ofNat (v % 0x40 + 0x80)] ++ rest) = .char (Char.ofNat v) 3 := by
  have hlead : (UInt8.ofNat (v / 262144 % 0x08 + 0xF0)).toNat = v / 262144 + 0xF0 := by
    rw [UInt8.toNat_ofNat']
    omega
  obtain ⟨lo, hi, hfollowing, hsecond, hsecond'⟩ :=
    following?_four hlead (toNat_continuation (v / 4096)) hlo hhi
  apply front_of_following (by omega) hfollowing rfl
  · rw [List.cons_append, List.cons_append, List.cons_append,
      continuation_cons hsecond hsecond',
      continuation_cons (le_continuation (v / 64)) (continuation_le (v / 64)),
      continuation_cons (le_continuation v) (continuation_le v), continuation_zero]
  · simp only [assemble, leadBits, List.foldl_cons, List.foldl_nil, hlead, toNat_continuation,
      Nat.reduceSub, Nat.reducePow]
    omega

/-- Before any bytes, the form of a character is read as the character. -/
theorem exists_front_encodeChar (c : Char) : ∃ lead tail, String.utf8EncodeChar c = lead :: tail ∧
    ∀ rest, front lead (tail ++ rest) = .char c tail.length := by
  obtain ⟨v, hv⟩ : ∃ v, c.val.toNat = v := ⟨_, rfl⟩
  have hc : c = Char.ofNat v := by
    rw [← hv]
    exact (Char.ofNat_toNat c).symm
  have hvalid : v < 0xD800 ∨ 0xDFFF < v ∧ v < 0x110000 := by
    rw [← hv]
    exact c.valid
  rw [String.utf8EncodeChar]
  simp only [hv]
  rw [hc]
  split_ifs with hone htwo hthree
  · exact ⟨_, _, rfl, front_one hone⟩
  · exact ⟨_, _, rfl, front_two (by omega) htwo⟩
  · exact ⟨_, _, rfl, front_three (by omega) hthree (by omega)⟩
  · exact ⟨_, _, rfl, front_four (by omega) (by omega)⟩

/-- A text has at least as many bytes as characters. -/
theorem length_le_encode (s : List Char) : s.length ≤ (encode s).length := by
  induction s with
  | nil => exact Nat.le_refl _
  | cons c s ih =>
    obtain ⟨lead, tail, hform, -⟩ := exists_front_encodeChar c
    rw [encode_cons, hform, List.length_append, List.length_cons, List.length_cons]
    omega

/-! ## Decoding -/

/-- The bytes that belong to the character read last are skipped. -/
theorem decodeFrom?_append (tail rest : Bytes) :
    decodeFrom? tail.length (tail ++ rest) = decodeFrom? 0 rest := by
  induction tail with
  | nil => rfl
  | cons b tail ih => exact ih

/-- Every text is read back from its UTF-8 form. -/
theorem decode?_encode (s : List Char) : decode? (encode s) = some s := by
  induction s with
  | nil => rfl
  | cons c s ih =>
    obtain ⟨lead, tail, hform, hfront⟩ := exists_front_encodeChar c
    rw [decode?] at ih ⊢
    rw [encode_cons, hform, List.cons_append, decodeFrom?, hfront]
    simp only [decodeFrom?_append, ih, Option.map_some]

/-- Bytes that are well formed are not changed by lenient reading. -/
theorem decodeLossyFrom_of_decodeFrom? {skip : Nat} {bytes : Bytes} {s : List Char}
    (h : decodeFrom? skip bytes = some s) : decodeLossyFrom skip bytes = s := by
  induction bytes generalizing skip s with
  | nil => exact Option.some.inj h
  | cons b rest ih =>
    cases skip with
    | succ k => exact ih h
    | zero =>
      rw [decodeFrom?] at h
      rw [decodeLossyFrom]
      cases hfront : front b rest with
      | char c more =>
        rw [hfront] at h
        obtain ⟨t, ht, rfl⟩ := Option.map_eq_some_iff.mp h
        exact congrArg (c :: ·) (ih ht)
      | illFormed more =>
        rw [hfront] at h
        cases h

/-- Every text is read back leniently from its UTF-8 form. -/
theorem decodeLossy_encode (s : List Char) : decodeLossy (encode s) = s :=
  decodeLossyFrom_of_decodeFrom? (decode?_encode s)

/-- Different texts have different forms. -/
theorem ofString_inj {s t : String} : ofString s = ofString t ↔ s = t := by
  constructor
  · intro h
    have hdecoded := congrArg decode? h
    rw [ofString, ofString, decode?_encode, decode?_encode] at hdecoded
    exact String.toList_inj.mp (Option.some.inj hdecoded)
  · rintro rfl
    rfl

end QueryGateway.Utf8
