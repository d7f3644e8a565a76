import Mathlib.Data.List.Forall2
import QueryGateway.Proofs.Text.Utf8
import QueryGateway.Text.FormUrl

/-!
# The round trip of form-encoded pairs

A component may be written in many ways: a byte stands for itself, unless it has a meaning in
the format, or is escaped, and a space may also be a plus sign. However pairs are written,
the same pairs are read, whatever characters their names and values have.
-/

namespace QueryGateway

namespace FormUrl

/-! ## Ways to write pairs -/

/-- Whether a byte has a meaning in the format, so that it does not stand for itself. -/
def isMark (b : UInt8) : Bool :=
  b == 0x25 || b == 0x26 || b == 0x2B || b == 0x3D

/-- The ways to write a byte. -/
inductive Spells : UInt8 → Bytes → Prop
  | plain {b : UInt8} (hb : isMark b = false) : Spells b [b]
  | plus : Spells 0x20 [0x2B]
  | escape {h l x y : UInt8} (hh : hexValue? h = some x) (hl : hexValue? l = some y) :
    Spells (x * 16 + y) [0x25, h, l]

/-- The ways to write a sequence of bytes. -/
inductive SpellsAll : Bytes → Bytes → Prop
  | nil : SpellsAll [] []
  | cons {b : UInt8} {bytes piece written : Bytes} (hfirst : Spells b piece)
    (hrest : SpellsAll bytes written) : SpellsAll (b :: bytes) (piece ++ written)

/-- The ways to write a pair. -/
def SpellsPair (p : String × String) (written : Bytes) : Prop :=
  ∃ name value, SpellsAll (Utf8.ofString p.1) name ∧ SpellsAll (Utf8.ofString p.2) value ∧
    written = name ++ 0x3D :: value

/-- Whether a text is a form of a list of pairs. -/
def Encodes (pairs : List (String × String)) (text : String) : Prop :=
  ∃ pieces, List.Forall₂ SpellsPair pairs pieces ∧
    Utf8.ofString text = List.intercalate [0x26] pieces

/-! ## Splitting -/

section

variable {sep : UInt8} {part : Bytes}

/-- A part up to a separator is split off. -/
theorem splitBytes_append_cons (hpart : sep ∉ part) (rest : Bytes) :
    splitBytes sep (part ++ sep :: rest) = part :: splitBytes sep rest := by
  induction part with
  | nil => simp [splitBytes]
  | cons b part ih =>
    rw [List.mem_cons, not_or] at hpart
    have hb : (b == sep) = false := beq_eq_false_iff_ne.mpr (Ne.symm hpart.1)
    rw [List.cons_append, splitBytes, hb, ih hpart.2]
    rfl

/-- Bytes without separators are one part. -/
theorem splitBytes_of_notMem (hpart : sep ∉ part) : splitBytes sep part = [part] := by
  induction part with
  | nil => rfl
  | cons b part ih =>
    rw [List.mem_cons, not_or] at hpart
    have hb : (b == sep) = false := beq_eq_false_iff_ne.mpr (Ne.symm hpart.1)
    rw [splitBytes, hb, ih hpart.2]
    rfl

/-- Parts that are joined by separators are split into these parts. -/
theorem splitBytes_intercalate {parts : List Bytes} (hne : parts ≠ [])
    (hparts : ∀ part ∈ parts, sep ∉ part) :
    splitBytes sep (List.intercalate [sep] parts) = parts := by
  induction parts with
  | nil => exact absurd rfl hne
  | cons part rest ih =>
    rw [List.forall_mem_cons] at hparts
    cases rest with
    | nil => rw [List.intercalate_singleton, splitBytes_of_notMem hparts.1]
    | cons next rest =>
      have hjoin : List.intercalate [sep] (part :: next :: rest) =
          part ++ sep :: List.intercalate [sep] (next :: rest) := by
        rw [List.intercalate_cons_cons, List.append_assoc, List.singleton_append]
      rw [hjoin, splitBytes_append_cons hparts.1, ih (List.cons_ne_nil _ _) hparts.2]

end

/-! ## Reading components -/

/-- The byte that a byte stands for before escapes are replaced. -/
def plusToSpace (b : UInt8) : UInt8 :=
  if b == 0x2B then 0x20 else b

/-- No hexadecimal digit has a meaning of its own. -/
theorem isMark_of_hexValue? {h x : UInt8} (hh : hexValue? h = some x) : isMark h = false := by
  have hnone {b : UInt8} (hb : hexValue? b = none) : h ≠ b := by
    rintro rfl
    rw [hh] at hb
    cases hb
  simp only [isMark, Bool.or_eq_false_iff, beq_eq_false_iff_ne]
  exact ⟨⟨⟨hnone rfl, hnone rfl⟩, hnone rfl⟩, hnone rfl⟩

/-- Neither separator stands in a written byte. -/
theorem Spells.ne_separators {b c : UInt8} {piece : Bytes} (h : Spells b piece)
    (hc : c ∈ piece) : c ≠ 0x26 ∧ c ≠ 0x3D := by
  have hmark {c : UInt8} (hc : isMark c = false) : c ≠ 0x26 ∧ c ≠ 0x3D := by
    simp only [isMark, Bool.or_eq_false_iff, beq_eq_false_iff_ne] at hc
    exact ⟨hc.1.1.2, hc.2⟩
  cases h with
  | plain hb =>
    obtain rfl := List.mem_singleton.mp hc
    exact hmark hb
  | plus =>
    obtain rfl := List.mem_singleton.mp hc
    decide
  | escape hh hl =>
    simp only [List.mem_cons, List.not_mem_nil, or_false] at hc
    rcases hc with rfl | rfl | rfl
    · decide
    · exact hmark (isMark_of_hexValue? hh)
    · exact hmark (isMark_of_hexValue? hl)

/-- Neither separator stands in a written component. -/
theorem SpellsAll.ne_separators {bytes written : Bytes} (h : SpellsAll bytes written) :
    ∀ c ∈ written, c ≠ 0x26 ∧ c ≠ 0x3D := by
  induction h with
  | nil => simp
  | cons hfirst _ ih => exact List.forall_mem_append.mpr ⟨fun c => hfirst.ne_separators, ih⟩

/-- A byte that begins no escape stands for itself. -/
theorem unescape_cons_of_ne {b : UInt8} (hb : b ≠ 0x25) (rest : Bytes) :
    unescape (b :: rest) = b :: unescape rest := by
  have hbeq : (b == 0x25) = false := beq_eq_false_iff_ne.mpr hb
  match rest with
  | [] => rfl
  | [c] => rfl
  | h :: l :: rest => simp [unescape, hbeq]

/-- A complete escape stands for its byte. -/
theorem unescape_escape {h l x y : UInt8} (hh : hexValue? h = some x) (hl : hexValue? l = some y)
    (rest : Bytes) : unescape (0x25 :: h :: l :: rest) = (x * 16 + y) :: unescape rest := by
  simp [unescape, hh, hl]

/-- A written byte is read back before anything else. -/
theorem Spells.unescape {b : UInt8} {piece : Bytes} (h : Spells b piece) (rest : Bytes) :
    FormUrl.unescape (piece.map plusToSpace ++ rest) = b :: FormUrl.unescape rest := by
  have hself {c : UInt8} (hc : isMark c = false) : plusToSpace c = c ∧ c ≠ 0x25 := by
    simp only [isMark, Bool.or_eq_false_iff, beq_eq_false_iff_ne] at hc
    exact ⟨if_neg (by simpa using hc.1.2), hc.1.1.1⟩
  cases h with
  | plain hb =>
    rw [List.map_singleton, (hself hb).1, List.singleton_append,
      unescape_cons_of_ne (hself hb).2]
  | plus => exact unescape_cons_of_ne (by decide) rest
  | escape hh hl =>
    have hpercent : plusToSpace 0x25 = 0x25 := rfl
    simp only [List.map_cons, List.map_nil, List.cons_append, List.nil_append, hpercent,
      (hself (isMark_of_hexValue? hh)).1, (hself (isMark_of_hexValue? hl)).1]
    exact unescape_escape hh hl rest

/-- Written bytes are read back. -/
theorem SpellsAll.unescape {bytes written : Bytes} (h : SpellsAll bytes written) :
    FormUrl.unescape (written.map plusToSpace) = bytes := by
  induction h with
  | nil => rfl
  | cons hfirst _ ih => rw [List.map_append, hfirst.unescape, ih]

/-- A written component is read back. -/
theorem decodeComponent_of_spells {s : String} {written : Bytes}
    (h : SpellsAll (Utf8.ofString s) written) : decodeComponent written = s := by
  have hbytes : FormUrl.unescape (written.map fun b => if b == 0x2B then 0x20 else b) =
      Utf8.ofString s := h.unescape
  rw [decodeComponent, hbytes, Utf8.ofString, Utf8.decodeLossy_encode, String.ofList_toList]

/-! ## Reading pairs -/

/-- A written pair is read back. -/
theorem decodePair_of_spells {p : String × String} {written : Bytes} (h : SpellsPair p written) :
    decodePair written = p := by
  obtain ⟨name, value, hname, hvalue, rfl⟩ := h
  have htake : (name ++ 0x3D :: value).takeWhile (· != 0x3D) = name := by
    rw [List.takeWhile_append_of_pos, List.takeWhile_cons_of_neg (by decide), List.append_nil]
    intro b hb
    exact bne_iff_ne.mpr (hname.ne_separators b hb).2
  have hdrop : (name ++ 0x3D :: value).drop (name.length + 1) = value := by simp
  rw [decodePair, htake, hdrop, decodeComponent_of_spells hname, decodeComponent_of_spells hvalue]

/-- A written pair is not empty and has no ampersand. -/
theorem SpellsPair.piece {p : String × String} {written : Bytes} (h : SpellsPair p written) :
    written ≠ [] ∧ 0x26 ∉ written := by
  obtain ⟨name, value, hname, hvalue, rfl⟩ := h
  refine ⟨by simp, ?_⟩
  rw [List.mem_append, List.mem_cons]
  rintro (h | h | h)
  · exact (hname.ne_separators _ h).1 rfl
  · revert h
    decide
  · exact (hvalue.ne_separators _ h).1 rfl

/-- Written pairs are not empty and have no ampersands. -/
theorem forall_pieces {pairs : List (String × String)} {pieces : List Bytes}
    (h : List.Forall₂ SpellsPair pairs pieces) : ∀ piece ∈ pieces, piece ≠ [] ∧ 0x26 ∉ piece := by
  induction h with
  | nil => simp
  | cons hp _ ih => exact List.forall_mem_cons.mpr ⟨hp.piece, ih⟩

/-- The pairs of a form are read in their order. -/
theorem decode_of_encodes {pairs : List (String × String)} {text : String}
    (h : Encodes pairs text) : decode (Utf8.ofString text) = pairs := by
  obtain ⟨pieces, hpieces, htext⟩ := h
  have hpiece := forall_pieces hpieces
  have hsplit : (splitBytes 0x26 (List.intercalate [0x26] pieces)).filter (!·.isEmpty) =
      pieces := by
    by_cases hnil : pieces = []
    · subst hnil
      rfl
    · rw [splitBytes_intercalate hnil fun piece hmem => (hpiece piece hmem).2]
      apply List.filter_eq_self.mpr
      intro piece hmem
      simpa using (hpiece piece hmem).1
  rw [decode, htext, hsplit]
  clear hsplit hpiece htext
  induction hpieces with
  | nil => rfl
  | cons hp _ ih => rw [List.map_cons, decodePair_of_spells hp, ih]

/-- Pairs with different names are all kept. -/
theorem firstValues_of_nodup {pairs : List (String × String)}
    (h : (pairs.map Prod.fst).Nodup) : firstValues pairs = pairs := by
  suffices hfold : ∀ kept : List (String × String), ((kept ++ pairs).map Prod.fst).Nodup →
      pairs.foldl (fun kept p => if kept.any (·.1 == p.1) then kept else kept ++ [p]) kept =
        kept ++ pairs from hfold [] h
  clear h
  induction pairs with
  | nil => exact fun kept _ => (List.append_nil kept).symm
  | cons p pairs ih =>
    intro kept hnodup
    have hnew : kept.any (·.1 == p.1) = false := by
      rw [List.any_eq_false]
      intro q hq hname
      rw [List.map_append, List.nodup_append] at hnodup
      exact hnodup.2.2 q.1 (List.mem_map_of_mem hq) p.1 List.mem_cons_self (beq_iff_eq.mp hname)
    have hstep : kept ++ p :: pairs = (kept ++ [p]) ++ pairs := by simp
    rw [hstep] at hnodup
    rw [List.foldl_cons, hnew, hstep]
    exact ih _ hnodup

/-- A form of pairs with different names is read as these pairs. -/
theorem parse_of_encodes {pairs : List (String × String)} {text : String}
    (hpairs : (pairs.map Prod.fst).Nodup) (h : Encodes pairs text) : parse text = pairs := by
  rw [parse, decode_of_encodes h, firstValues_of_nodup hpairs]

/-! ## The usual form -/

/-- The usual form of pairs, with letters, digits and a few marks standing for themselves. -/
def text (pairs : List (String × String)) : String :=
  String.ofList ((encode pairs).map fun b => Char.ofNat b.toNat)

/-- A number below sixteen is the value of its digit. -/
theorem hexValue?_hexDigit {v : UInt8} (hv : v.toNat < 16) : hexValue? (hexDigit v) = some v := by
  have hall : ∀ k : Fin 16, hexValue? (hexDigit (UInt8.ofNat k)) = some (UInt8.ofNat k) := by
    decide
  simpa using hall ⟨v.toNat, hv⟩

/-- The halves of a byte are digits. -/
theorem halves_lt (b : UInt8) : (b / 16).toNat < 16 ∧ (b % 16).toNat < 16 := by
  have hb := b.toNat_lt
  simp only [UInt8.toNat_div, UInt8.toNat_mod, UInt8.reduceToNat]
  omega

/-- The usual form of a byte is a way to write it. -/
theorem spells_encodeByte (b : UInt8) : Spells b (encodeByte b) := by
  rw [encodeByte]
  split
  · next hplain =>
    apply Spells.plain
    rw [← Bool.not_eq_true, isMark]
    simp only [Bool.or_eq_true, beq_iff_eq]
    rintro (((rfl | rfl) | rfl) | rfl) <;> revert hplain <;> decide
  · split
    · next hspace =>
      obtain rfl := beq_iff_eq.mp hspace
      exact .plus
    · have hvalue : b / 16 * 16 + b % 16 = b := by
        have hb := b.toNat_lt
        simp only [← UInt8.toNat_inj, UInt8.toNat_add, UInt8.toNat_mul, UInt8.toNat_div,
          UInt8.toNat_mod, UInt8.reduceToNat]
        omega
      obtain ⟨hhigh, hlow⟩ := halves_lt b
      have hescape := Spells.escape (hexValue?_hexDigit hhigh) (hexValue?_hexDigit hlow)
      rwa [hvalue] at hescape

/-- The usual form of a byte is ASCII. -/
theorem toNat_lt_of_mem_encodeByte {b c : UInt8} (hc : c ∈ encodeByte b) : c.toNat < 0x80 := by
  rw [encodeByte] at hc
  split at hc
  · next hplain =>
    obtain rfl := List.mem_singleton.mp hc
    simp only [isPlain, Bool.or_eq_true, Bool.and_eq_true, decide_eq_true_eq, beq_iff_eq,
      UInt8.le_iff_toNat_le, ← UInt8.toNat_inj, UInt8.reduceToNat] at hplain
    omega
  · split at hc
    · obtain rfl := List.mem_singleton.mp hc
      decide
    · have hdigit {v : UInt8} (hv : v.toNat < 16) : (hexDigit v).toNat < 0x80 := by
        have hall : ∀ k : Fin 16, (hexDigit (UInt8.ofNat k)).toNat < 0x80 := by decide
        simpa using hall ⟨v.toNat, hv⟩
      simp only [List.mem_cons, List.not_mem_nil, or_false] at hc
      rcases hc with rfl | rfl | rfl
      · decide
      · exact hdigit (halves_lt b).1
      · exact hdigit (halves_lt b).2

/-- The usual form of a component is a way to write it. -/
theorem spellsAll_flatMap (bytes : Bytes) : SpellsAll bytes (bytes.flatMap encodeByte) := by
  induction bytes with
  | nil => exact .nil
  | cons b bytes ih =>
    rw [List.flatMap_cons]
    exact .cons (spells_encodeByte b) ih

/-- The usual form of pairs is ASCII. -/
theorem toNat_lt_of_mem_encode (pairs : List (String × String)) :
    ∀ b ∈ encode pairs, b.toNat < 0x80 := by
  have hcomponent (s : String) : ∀ b ∈ encodeComponent s, b.toNat < 0x80 := by
    intro b hb
    obtain ⟨a, -, hb⟩ := List.mem_flatMap.mp hb
    exact toNat_lt_of_mem_encodeByte hb
  have hpair (p : String × String) :
      ∀ b ∈ encodeComponent p.1 ++ 0x3D :: encodeComponent p.2, b.toNat < 0x80 :=
    List.forall_mem_append.mpr
      ⟨hcomponent p.1, List.forall_mem_cons.mpr ⟨by decide, hcomponent p.2⟩⟩
  induction pairs with
  | nil => simp [encode]
  | cons p pairs ih =>
    cases pairs with
    | nil => simpa [encode] using hpair p
    | cons q pairs =>
      have hstep : encode (p :: q :: pairs) =
          (encodeComponent p.1 ++ 0x3D :: encodeComponent p.2) ++ 0x26 :: encode (q :: pairs) := by
        simp [encode]
      rw [hstep]
      exact List.forall_mem_append.mpr ⟨hpair p, List.forall_mem_cons.mpr ⟨by decide, ih⟩⟩

/-- The usual form of pairs is one of their forms. -/
theorem encodes_text (pairs : List (String × String)) : Encodes pairs (text pairs) := by
  refine ⟨pairs.map fun p => encodeComponent p.1 ++ 0x3D :: encodeComponent p.2, ?_, ?_⟩
  · rw [List.forall₂_map_right_iff, List.forall₂_same]
    intro p _
    exact ⟨_, _, spellsAll_flatMap _, spellsAll_flatMap _, rfl⟩
  · rw [text, Utf8.ofString, String.toList_ofList,
      Utf8.encode_map_ofNat (toNat_lt_of_mem_encode pairs)]
    rfl

end FormUrl

end QueryGateway
