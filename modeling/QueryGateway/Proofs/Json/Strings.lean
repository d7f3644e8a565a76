import Mathlib.Tactic.SplitIfs
import QueryGateway.Json.Scalar
import QueryGateway.Proofs.Json.Document
import QueryGateway.Proofs.Text.Utf8

/-!
# Strings as characters and as bytes

Strings are read byte by byte, and their escapes are replaced in UTF-8. What is read is what
the characters of the text denote: every string of a JSON text is read, and what follows it is
what is left.
-/

namespace QueryGateway.Json

open Document (readHex? readUnicode? readEscape? readChar? readChars? readString?)

/-! ## Positions -/

namespace Input

/-- Whether a text is what an input has not read yet. -/
def Shows (i : Input) (s : List Char) : Prop :=
  i.rest = Utf8.encode s

variable {i : Input} {b : UInt8} {bytes : Bytes} {c : Char} {s : List Char}

/-- What is left after the byte that stands next. -/
theorem rest_advance (h : i.rest = b :: bytes) : i.advance.rest = bytes := by
  rw [advance, h]
  dsimp only
  split <;> rfl

/-- What is left after some bytes. -/
theorem rest_advanceBy (n : Nat) (i : Input) : (advanceBy n i).rest = i.rest.drop n := by
  induction n generalizing i with
  | zero => rfl
  | succ n ih =>
    rw [advanceBy, ih]
    cases h : i.rest with
    | nil => simp [advance, h]
    | cons b bytes => rw [rest_advance h, List.drop_succ_cons]

/-- The byte that stands next. -/
theorem next?_of_rest (h : i.rest = b :: bytes) : i.next? = some (b, i.advance) := by
  rw [next?, peek?, h]
  rfl

/-- An ASCII character that stands next is one byte. -/
theorem Shows.rest_of_ascii (h : i.Shows (c :: s)) (hc : c.toNat < 0x80) :
    i.rest = UInt8.ofNat c.toNat :: Utf8.encode s := by
  rw [h, Utf8.encode_cons, Utf8.encodeChar_of_ascii hc]
  rfl

/-- After an ASCII character the rest of the text is left. -/
theorem Shows.advance (h : i.Shows (c :: s)) (hc : c.toNat < 0x80) : i.advance.Shows s :=
  rest_advance (h.rest_of_ascii hc)

/-- An ASCII character that stands next is read. -/
theorem Shows.next? (h : i.Shows (c :: s)) (hc : c.toNat < 0x80) :
    i.next? = some (UInt8.ofNat c.toNat, i.advance) :=
  next?_of_rest (h.rest_of_ascii hc)

end Input

open Input

variable {i : Input} {s rest : List Char} {c : Char} {n : Nat}

/-! ## Escapes -/

/-- A hexadecimal digit is an ASCII character, and its byte has the same value. -/
theorem hexValue?_of_char (h : Text.hexValue? c = some n) :
    c.toNat < 0x80 ∧ hexValue? (UInt8.ofNat c.toNat) = some n := by
  have hascii : c.toNat < 0x80 := by
    have hle {a b : Char} : a ≤ b ↔ a.toNat ≤ b.toNat := Iff.rfl
    simp only [Text.hexValue?, Text.isAsciiDigit, Bool.and_eq_true, decide_eq_true_eq, hle] at h
    split_ifs at h with hdigit hlower hupper
    · have hmax : c.toNat ≤ 57 := hdigit.2
      omega
    · have hmax : c.toNat ≤ 102 := hlower.2
      omega
    · have hmax : c.toNat ≤ 70 := hupper.2
      omega
  have hall : ∀ k : Fin 128, hexValue? (UInt8.ofNat k) = Text.hexValue? (Char.ofNat k) := by
    decide
  refine ⟨hascii, ?_⟩
  rw [← h, ← Char.ofNat_toNat c]
  simpa using hall ⟨c.toNat, hascii⟩

/-- Four digits are read as the number that they denote. -/
theorem readHex_of_chars (h : readHex? s = some (n, rest)) (hi : i.Shows s) :
    rest <:+ s ∧ ∃ after, after.Shows rest ∧ readHex i = .ok (n, after) := by
  unfold readHex? at h
  split at h
  · next a b c d tail =>
    obtain ⟨w, hw, h⟩ := Option.bind_eq_some_iff.mp h
    obtain ⟨x, hx, h⟩ := Option.bind_eq_some_iff.mp h
    obtain ⟨y, hy, h⟩ := Option.bind_eq_some_iff.mp h
    obtain ⟨z, hz, h⟩ := Option.bind_eq_some_iff.mp h
    obtain ⟨rfl, rfl⟩ := Prod.mk.inj (Option.some.inj h)
    obtain ⟨ha, hw⟩ := hexValue?_of_char hw
    obtain ⟨hb, hx⟩ := hexValue?_of_char hx
    obtain ⟨hc, hy⟩ := hexValue?_of_char hy
    obtain ⟨hd, hz⟩ := hexValue?_of_char hz
    have hrest : i.rest = UInt8.ofNat a.toNat :: UInt8.ofNat b.toNat :: UInt8.ofNat c.toNat ::
        UInt8.ofNat d.toNat :: Utf8.encode tail := by
      rw [hi, Utf8.encode_cons, Utf8.encode_cons, Utf8.encode_cons, Utf8.encode_cons,
        Utf8.encodeChar_of_ascii ha, Utf8.encodeChar_of_ascii hb, Utf8.encodeChar_of_ascii hc,
        Utf8.encodeChar_of_ascii hd]
      rfl
    refine ⟨⟨[a, b, c, d], rfl⟩, advanceBy 4 i, ?_, ?_⟩
    · rw [Shows, rest_advanceBy, hrest]
      rfl
    · rw [readHex, hrest]
      simp only [hw, hx, hy, hz, Except.ok.injEq, Prod.mk.injEq, and_true]
      omega
  · cases h

/-- An escape by code units is read as the character that it denotes. -/
theorem readUnicodeEscape_of_chars (h : readUnicode? s = some (c, rest)) (hi : i.Shows s) :
    rest <:+ s ∧ ∃ after, after.Shows rest ∧ readUnicodeEscape i = .ok (c, after) := by
  obtain ⟨⟨high, tail⟩, hhigh, h⟩ := Option.bind_eq_some_iff.mp h
  obtain ⟨hsuffix, j, hj, hread⟩ := readHex_of_chars hhigh hi
  dsimp only at h
  rw [readUnicodeEscape, hread]
  split at h
  · next hsurrogate =>
    split at h
    · next low =>
      obtain ⟨⟨second, last⟩, hsecond, h⟩ := Option.bind_eq_some_iff.mp h
      dsimp only at h
      split at h
      · next hpair =>
        obtain ⟨rfl, rfl⟩ := Prod.mk.inj (Option.some.inj h)
        have hslash := hj.advance (by decide)
        have hmark := hslash.advance (by decide)
        obtain ⟨hsuffix', k, hk, hread'⟩ := readHex_of_chars hsecond hmark
        refine ⟨?_, k, hk, ?_⟩
        · exact (hsuffix'.trans ((List.suffix_cons _ _).trans (List.suffix_cons _ _))).trans hsuffix
        · have hbackslash : j.next? = some (0x5C, j.advance) := hj.next? (by decide)
          have hu : j.advance.next? = some (0x75, j.advance.advance) := hslash.next? (by decide)
          have hlone : ¬ (0xDC00 ≤ high ∧ high ≤ 0xDFFF) := by omega
          have hsplit : ¬ (high < 0xD800 ∨ 0xDBFF < high) := by omega
          have hsecond : ¬ (second < 0xDC00 ∨ 0xDFFF < second) := by omega
          have hvalue : (high - 0xD800) * 0x400 + (second - 0xDC00) + 0x10000 =
              0x10000 + (high - 0xD800) * 0x400 + (second - 0xDC00) := by omega
          simp [bind, Except.bind, expectPairByte, hbackslash, hu, hread', hlone, hsplit, hsecond,
            hvalue]
      · cases h
    · cases h
  · next hplain =>
    split at h
    · cases h
    · next hlow =>
      obtain ⟨rfl, rfl⟩ := Prod.mk.inj (Option.some.inj h)
      refine ⟨hsuffix, j, hj, ?_⟩
      have hlone : ¬ (0xDC00 ≤ high ∧ high ≤ 0xDFFF) := by omega
      have halone : high < 0xD800 ∨ 0xDBFF < high := by omega
      simp [bind, Except.bind, hlone, halone]

/-- An escape is read as the bytes of the character that it denotes. -/
theorem readEscape_of_chars (h : readEscape? s = some (c, rest)) (hi : i.Shows s) :
    rest <:+ s ∧ ∃ after, after.Shows rest ∧ readEscape i = .ok (Utf8.encode [c], after) := by
  cases s with
  | nil => cases h
  | cons d tail =>
    have hsuffix : tail <:+ d :: tail := List.suffix_cons d tail
    -- an escape of one character, which is ASCII
    have hshort {e : Char} (hd : d.toNat < 0x80)
        (hread : i.next? = some (UInt8.ofNat d.toNat, i.advance) →
          readEscape i = .ok (Utf8.encode [e], i.advance))
        (h : some (e, tail) = some (c, rest)) :
        rest <:+ d :: tail ∧ ∃ after, after.Shows rest ∧
          readEscape i = .ok (Utf8.encode [c], after) := by
      obtain ⟨rfl, rfl⟩ := Prod.mk.inj (Option.some.inj h)
      exact ⟨hsuffix, i.advance, hi.advance hd, hread (hi.next? hd)⟩
    rw [readEscape?] at h
    split_ifs at h with hself hb hf hn hr ht hu
    · rcases hself with rfl | rfl | rfl <;>
        exact hshort (by decide) (fun hnext => by rw [readEscape, hnext]; rfl) h
    · subst hb
      exact hshort (by decide) (fun hnext => by rw [readEscape, hnext]; rfl) h
    · subst hf
      exact hshort (by decide) (fun hnext => by rw [readEscape, hnext]; rfl) h
    · subst hn
      exact hshort (by decide) (fun hnext => by rw [readEscape, hnext]; rfl) h
    · subst hr
      exact hshort (by decide) (fun hnext => by rw [readEscape, hnext]; rfl) h
    · subst ht
      exact hshort (by decide) (fun hnext => by rw [readEscape, hnext]; rfl) h
    · subst hu
      have hnext : i.next? = some (0x75, i.advance) := hi.next? (by decide)
      obtain ⟨hsuffix', after, hafter, hread⟩ :=
        readUnicodeEscape_of_chars h (hi.advance (by decide))
      refine ⟨hsuffix'.trans hsuffix, after, hafter, ?_⟩
      simp [readEscape, hnext, hread, bind, Except.bind]

/-! ## Strings -/

/-- Whether a byte stands for itself in a string. -/
def IsStringByte (b : UInt8) : Prop :=
  b ≠ 0x22 ∧ b ≠ 0x5C ∧ ¬ b < 0x20

/-- The bytes of a character that needs no escape stand for themselves. -/
theorem isStringByte_of_mem_encodeChar (hquote : c ≠ '"') (hslash : c ≠ '\\')
    (hcontrol : ¬ c.toNat < 0x20) {b : UInt8} (hb : b ∈ String.utf8EncodeChar c) :
    IsStringByte b := by
  rw [IsStringByte, UInt8.lt_iff_toNat_lt, ne_eq, ne_eq, ← UInt8.toNat_inj, ← UInt8.toNat_inj]
  simp only [UInt8.reduceToNat]
  by_cases hascii : c.toNat < 0x80
  · have hne {d : Char} (hd : c ≠ d) : c.toNat ≠ d.toNat := fun h => hd (Char.toNat_inj.mp h)
    have hquote : c.toNat ≠ 0x22 := hne hquote
    have hslash : c.toNat ≠ 0x5C := hne hslash
    rw [Utf8.encodeChar_of_ascii hascii, List.mem_singleton] at hb
    rw [hb, UInt8.toNat_ofNat']
    omega
  · have hhigh := Utf8.le_of_mem_encodeChar (Nat.le_of_not_lt hascii) hb
    omega

/-- Bytes that stand for themselves are collected. -/
theorem readPieces_run {bytes left : Bytes} (hbytes : ∀ b ∈ bytes, IsStringByte b)
    (hi : i.rest = bytes ++ left) (fuel : Nat) (read : Bytes) :
    ∃ after, after.rest = left ∧
      readPieces (fuel + bytes.length) read i = readPieces fuel (bytes.reverse ++ read) after := by
  induction bytes generalizing i read with
  | nil => exact ⟨i, hi, rfl⟩
  | cons b bytes ih =>
    rw [List.forall_mem_cons] at hbytes
    obtain ⟨hquote, hslash, hcontrol⟩ := hbytes.1
    have hquote : (b == 0x22) = false := beq_eq_false_iff_ne.mpr hquote
    have hslash : (b == 0x5C) = false := beq_eq_false_iff_ne.mpr hslash
    obtain ⟨after, hafter, hread⟩ := ih hbytes.2 (rest_advance hi) (b :: read)
    refine ⟨after, hafter, ?_⟩
    rw [List.length_cons, ← Nat.add_assoc, readPieces, next?_of_rest hi]
    simp [hquote, hslash, hcontrol, hread]

/-- The characters of a string up to its closing quote are read in UTF-8. -/
theorem readPieces_of_chars {chars : List Char} (h : readChars? n s = some (chars, rest))
    (hi : i.Shows s) {fuel : Nat} (hfuel : (Utf8.encode s).length < fuel) (read : Bytes) :
    rest <:+ s ∧ ∃ after, after.Shows rest ∧
      readPieces fuel read i = .ok (read.reverse ++ Utf8.encode chars, after) := by
  induction n generalizing s chars i fuel read with
  | zero => cases h
  | succ n ih =>
    rw [readChars?] at h
    split at h
    · next hquote =>
      obtain ⟨tail, rfl⟩ := List.head?_eq_some_iff.mp hquote
      obtain ⟨rfl, rfl⟩ := Prod.mk.inj (Option.some.inj h)
      obtain ⟨k, rfl⟩ := Nat.exists_eq_add_of_lt hfuel
      have hnext : i.next? = some (0x22, i.advance) := hi.next? (by decide)
      refine ⟨List.suffix_cons _ _, i.advance, hi.advance (by decide), ?_⟩
      simp [readPieces, hnext]
    · obtain ⟨⟨c, mid⟩, hchar, h⟩ := Option.bind_eq_some_iff.mp h
      obtain ⟨⟨cs, tail⟩, hchars, h⟩ := Option.bind_eq_some_iff.mp h
      obtain ⟨rfl, rfl⟩ := Prod.mk.inj (Option.some.inj h)
      cases s with
      | nil => cases hchar
      | cons d front =>
        rw [Utf8.encode_cons, List.length_append] at hfuel
        rw [readChar?] at hchar
        split_ifs at hchar with hquote hslash hcontrol
        · subst hslash
          obtain ⟨hsuffix, after, hafter, hread⟩ :=
            readEscape_of_chars hchar (hi.advance (by decide))
          have hlength := Utf8.length_encode_le hsuffix
          have hpositive : 0 < (String.utf8EncodeChar '\\').length := by decide
          obtain ⟨k, rfl⟩ : ∃ k, fuel = k + 1 := ⟨fuel - 1, by omega⟩
          have hfuel : (Utf8.encode mid).length < k := by omega
          obtain ⟨hsuffix', last, hlast, hread'⟩ :=
            ih hchars hafter hfuel ((Utf8.encode [c]).reverse ++ read)
          have hnext : i.next? = some (0x5C, i.advance) := hi.next? (by decide)
          refine ⟨(hsuffix'.trans hsuffix).trans (List.suffix_cons _ _), last, hlast, ?_⟩
          simpa [readPieces, hnext, hread, bind, Except.bind] using hread'
        · obtain ⟨rfl, rfl⟩ := Prod.mk.inj (Option.some.inj hchar)
          obtain ⟨k, rfl⟩ : ∃ k, fuel = k + (String.utf8EncodeChar d).length :=
            ⟨fuel - (String.utf8EncodeChar d).length, by omega⟩
          obtain ⟨after, hafter, hread⟩ := readPieces_run
            (fun b => isStringByte_of_mem_encodeChar hquote hslash hcontrol) hi k read
          have hfuel : (Utf8.encode front).length < k := by omega
          obtain ⟨hsuffix, last, hlast, hread'⟩ :=
            ih hchars hafter hfuel ((String.utf8EncodeChar d).reverse ++ read)
          refine ⟨hsuffix.trans (List.suffix_cons _ _), last, hlast, ?_⟩
          rw [hread, hread']
          simp

/-- A string is read up to its closing quote. -/
theorem readString_of_chars {text : String} (h : readString? s = some (text, rest))
    (hi : i.Shows s) :
    ∃ after, after.Shows rest ∧ readString i = .ok (text, after) := by
  obtain ⟨⟨chars, tail⟩, hchars, htext⟩ := Option.map_eq_some_iff.mp h
  obtain ⟨rfl, rfl⟩ := Prod.mk.inj htext
  have hfuel : (Utf8.encode s).length < i.rest.length + 1 := by
    rw [hi]
    omega
  obtain ⟨-, after, hafter, hread⟩ := readPieces_of_chars hchars hi hfuel []
  refine ⟨after, hafter, ?_⟩
  simp [readString, hread, bind, Except.bind, Utf8.decode?_encode]

end QueryGateway.Json
