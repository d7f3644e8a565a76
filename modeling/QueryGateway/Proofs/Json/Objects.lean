import QueryGateway.Proofs.Json.Escapes
import QueryGateway.Proofs.Json.Members
import QueryGateway.Proofs.Json.Strings

/-!
# Objects of texts

An object whose values are strings is read with the same members in the same order, whatever
blanks and escapes it is written with.
-/

namespace QueryGateway.Json

open Document (readString? readName? readSeparated? readParts? readMember? readValue? readScalar?)
open Input

variable {i : Input} {s t u rest : List Char} {name value : String} {n fuel : Nat}

/-! ## Blanks -/

/-- The blanks at the front of a text are blanks in UTF-8. -/
theorem encode_skipBlanks (s : List Char) :
    Utf8.encode (Document.skipBlanks s) = (Utf8.encode s).dropWhile isBlankByte := by
  induction s with
  | nil => rfl
  | cons c s ih =>
    rw [Document.skipBlanks, List.dropWhile_cons, ← Document.skipBlanks, Utf8.encode_cons]
    by_cases hascii : c.toNat < 0x80
    · have hall : ∀ k : Fin 128,
          isBlankByte (UInt8.ofNat k) = Document.isBlank (Char.ofNat k) := by decide
      have hblank : isBlankByte (UInt8.ofNat c.toNat) = Document.isBlank c := by
        simpa [Char.ofNat_toNat] using hall ⟨c.toNat, hascii⟩
      rw [Utf8.encodeChar_of_ascii hascii, List.singleton_append, List.dropWhile_cons, hblank]
      split
      · exact ih
      · rw [Utf8.encode_cons, Utf8.encodeChar_of_ascii hascii]
        rfl
    · -- a character beyond ASCII is no blank, and neither is its first byte
      obtain ⟨lead, tail, hform, -⟩ := Utf8.exists_front_encodeChar c
      have hlead : 0x80 ≤ lead.toNat := Utf8.le_of_mem_encodeChar (Nat.le_of_not_lt hascii)
        (by rw [hform]; exact List.mem_cons_self)
      have hbyte : isBlankByte lead = false := by
        simp only [isBlankByte, Bool.or_eq_false_iff, beq_eq_false_iff_ne, ne_eq,
          ← UInt8.toNat_inj, UInt8.reduceToNat]
        omega
      have hchar : Document.isBlank c = false := by
        simp only [Document.isBlank, Bool.or_eq_false_iff, beq_eq_false_iff_ne]
        refine ⟨⟨⟨?_, ?_⟩, ?_⟩, ?_⟩ <;> rintro rfl <;> exact hascii (by decide)
      rw [hchar, if_neg Bool.false_ne_true, Utf8.encode_cons, hform, List.cons_append,
        List.dropWhile_cons, hbyte, if_neg Bool.false_ne_true]

/-- What is left behind the blanks that stand next. -/
theorem Input.Shows.skipBlanks (h : i.Shows s) : i.skipBlanks.Shows (Document.skipBlanks s) := by
  have hdrop (bytes : Bytes) :
      bytes.drop (bytes.takeWhile isBlankByte).length = bytes.dropWhile isBlankByte := by
    have hsplit : bytes.takeWhile isBlankByte ++ bytes.dropWhile isBlankByte = bytes :=
      List.takeWhile_append_dropWhile
    exact (congrArg _ hsplit.symm).trans List.drop_left
  rw [Shows, Input.skipBlanks, rest_advanceBy, blanks, hdrop, h, encode_skipBlanks]

/-- The byte of an ASCII character behind the blanks that stand next. -/
theorem Input.Shows.peek?_skipBlanks {c : Char} (h : i.Shows s)
    (hs : Document.skipBlanks s = c :: t) (hc : c.toNat < 0x80) :
    i.skipBlanks.Shows (c :: t) ∧ i.skipBlanks.peek? = some (UInt8.ofNat c.toNat) := by
  have hshows := h.skipBlanks
  rw [hs] at hshows
  refine ⟨hshows, ?_⟩
  rw [peek?, hshows.rest_of_ascii hc]
  rfl

/-! ## Keys -/

/-- The first key of an object. -/
theorem nextKey_first (h : i.Shows s) (hs : Document.skipBlanks s = '"' :: t) :
    nextKey true i = .ok (some i.skipBlanks, i.skipBlanks) := by
  obtain ⟨-, hpeek⟩ := h.peek?_skipBlanks hs (by decide)
  have hpeek : i.skipBlanks.peek? = some 0x22 := hpeek
  simp [nextKey, hpeek]

/-- A further key of an object. -/
theorem nextKey_later (h : i.Shows s) (hs : Document.skipBlanks s = ',' :: t)
    (ht : Document.skipBlanks t = '"' :: u) :
    nextKey false i =
      .ok (some i.skipBlanks.advance.skipBlanks, i.skipBlanks.advance.skipBlanks) := by
  obtain ⟨hcomma, hpeek⟩ := h.peek?_skipBlanks hs (by decide)
  obtain ⟨-, hpeek'⟩ := (hcomma.advance (by decide)).peek?_skipBlanks ht (by decide)
  have hpeek : i.skipBlanks.peek? = some 0x2C := hpeek
  have hpeek' : i.skipBlanks.advance.skipBlanks.peek? = some 0x22 := hpeek'
  simp [nextKey, hpeek, hpeek']

/-- The end of an object. -/
theorem nextKey_end (first : Bool) (h : i.Shows s) (hs : Document.skipBlanks s = '\x7d' :: t) :
    nextKey first i = .ok (none, i.skipBlanks.advance) := by
  obtain ⟨-, hpeek⟩ := h.peek?_skipBlanks hs (by decide)
  have hpeek : i.skipBlanks.peek? = some 0x7D := hpeek
  simp [nextKey, hpeek]

/-! ## Members -/

/-- Values of the other kinds are neither strings nor objects. -/
theorem isScalar_of_readScalar? {d : Document} (h : readScalar? s = some (d, rest)) :
    (∀ value, d ≠ .string value) ∧ ∀ members, d ≠ .object members := by
  unfold readScalar? at h
  split at h
  · cases h
    simp
  · cases h
    simp
  · cases h
    simp
  · rw [Document.readNumber?] at h
    split at h
    · cases h
      simp
    · cases h

/-- A value that is a string is written as one. -/
theorem exists_of_readValue?_string
    (h : readValue? fuel s = some (.string value, rest)) :
    ∃ t, Document.skipBlanks s = '"' :: t ∧ readString? t = some (value, rest) := by
  cases fuel with
  | zero => cases h
  | succ fuel =>
    rw [readValue?] at h
    split at h
    · next t hs =>
      obtain ⟨⟨text, after⟩, htext, hvalue⟩ := Option.map_eq_some_iff.mp h
      cases hvalue
      exact ⟨t, hs, htext⟩
    · obtain ⟨_, -, hvalue⟩ := Option.map_eq_some_iff.mp h
      cases hvalue
    · obtain ⟨_, -, hvalue⟩ := Option.map_eq_some_iff.mp h
      cases hvalue
    · exact absurd rfl ((isScalar_of_readScalar? h).1 value)

/-- What a member with a string is written as. -/
theorem exists_of_readMember?
    (h : readMember? (readValue? fuel) s = some ((name, .string value), rest)) :
    ∃ t u v w x, Document.skipBlanks s = '"' :: t ∧ readString? t = some (name, u) ∧
      Document.skipBlanks u = ':' :: v ∧ Document.skipBlanks v = '"' :: w ∧
        readString? w = some (value, x) ∧ x = rest := by
  obtain ⟨⟨key, v⟩, hname, h⟩ := Option.bind_eq_some_iff.mp h
  obtain ⟨⟨d, x⟩, hvalue, h⟩ := Option.bind_eq_some_iff.mp h
  cases h
  rw [readName?] at hname
  split at hname
  · next t hs =>
    obtain ⟨⟨key, u⟩, hkey, hname⟩ := Option.bind_eq_some_iff.mp hname
    dsimp only at hname
    split at hname
    · next v' hu =>
      cases hname
      obtain ⟨w, hw, hstring⟩ := exists_of_readValue?_string hvalue
      exact ⟨t, u, v, w, _, hs, hkey, hu, hw, hstring, rfl⟩
    · cases hname
  · cases hname

/-- A string is read as a text. -/
theorem readValue_of_chars (hi : i.Shows s) (hs : Document.skipBlanks s = '"' :: t)
    (ht : readString? t = some (value, rest)) (fuel depth : Nat) :
    ∃ after, after.Shows rest ∧ readValue (fuel + 1) depth i = .ok (.text value, after) := by
  obtain ⟨hquote, hpeek⟩ := hi.peek?_skipBlanks hs (by decide)
  have hpeek : i.skipBlanks.peek? = some 0x22 := hpeek
  obtain ⟨after, hafter, hread⟩ := readString_of_chars ht (hquote.advance (by decide))
  refine ⟨after, hafter, ?_⟩
  rw [readValue]
  simp [hpeek, isDigitByte, hread, bind, Except.bind]

/-- A member with a string is read at its key, before the members that follow it. -/
theorem readMembers_of_chars {first : Bool} {k : Input} {depth : Nat}
    (hnext : nextKey first i = .ok (some k, k)) (hk : k.Shows (Document.skipBlanks s))
    (h : readMember? (readValue? n) s = some ((name, .string value), rest)) (fuel : Nat) :
    ∃ after, after.Shows rest ∧ readMembers (fuel + 2) depth first i =
      (readMembers (fuel + 1) depth false after).map fun (members, last) =>
        ((name, .text value) :: members, last) := by
  obtain ⟨t, u, v, w, x, hs, hname, hcolon, hquote, hvalue, rfl⟩ := exists_of_readMember? h
  rw [hs] at hk
  obtain ⟨j, hj, hkey⟩ := readString_of_chars hname (hk.advance (by decide))
  obtain ⟨hmark, hpeek⟩ := hj.peek?_skipBlanks hcolon (by decide)
  have hpeek : j.skipBlanks.peek? = some 0x3A := hpeek
  have hmark := hmark.advance (by decide)
  obtain ⟨after, hafter, hread⟩ := readValue_of_chars hmark hquote hvalue fuel depth
  refine ⟨after, hafter, ?_⟩
  have hcolon : readColon j = .ok j.skipBlanks.advance := by simp [readColon, hpeek]
  rw [readMembers, hnext]
  simp only [bind, Except.bind, hkey, hcolon, hread]
  cases readMembers (fuel + 1) depth false after <;> rfl

/-! ## Objects -/

/-- Texts as the members of a document. -/
def stringMembers (pairs : List (String × String)) : List (String × Document) :=
  pairs.map fun (name, value) => (name, .string value)

/-- There are no more parts than the fuel admits. -/
theorem length_le_of_readSeparated? {α : Type} {close : Char}
    {read : List Char → Option (α × List Char)} {parts : List α}
    (h : readSeparated? close read n s = some (parts, rest)) : parts.length ≤ n := by
  induction n generalizing s parts rest with
  | zero => cases h
  | succ n ih =>
    obtain ⟨⟨part, after⟩, -, h⟩ := Option.bind_eq_some_iff.mp h
    dsimp only at h
    split at h
    · cases h
    · split at h
      · cases h
        simp
      · split at h
        · obtain ⟨⟨parts, last⟩, hparts, h⟩ := Option.bind_eq_some_iff.mp h
          cases h
          exact Nat.succ_le_succ (ih hparts)
        · cases h

/-- Members with strings are read up to the end of the object, from the first key on. -/
theorem readMembers_of_separated {pairs : List (String × String)} {first : Bool}
    (h : readSeparated? '\x7d' (readMember? (readValue? fuel)) n s =
      some (stringMembers pairs, rest))
    (hnext : ∀ t, Document.skipBlanks s = '"' :: t →
      ∃ k, nextKey first i = .ok (some k, k) ∧ k.Shows ('"' :: t)) (extra depth : Nat) :
    ∃ after, after.Shows rest ∧
      readMembers (extra + pairs.length + 1) depth first i =
        .ok (pairs.map fun (name, value) => (name, .text value), after) := by
  induction n generalizing s pairs first i with
  | zero => cases h
  | succ n ih =>
    obtain ⟨⟨part, tail⟩, hpart, h⟩ := Option.bind_eq_some_iff.mp h
    dsimp only at h
    have hmember {p : String × String} (hp : part = (p.1, .string p.2)) (fuel : Nat) :
        ∃ after, after.Shows tail ∧ readMembers (fuel + 2) depth first i =
          (readMembers (fuel + 1) depth false after).map fun (members, last) =>
            ((p.1, .text p.2) :: members, last) := by
      rw [hp] at hpart
      obtain ⟨t, -, -, -, -, ht, -⟩ := exists_of_readMember? hpart
      obtain ⟨k, hkey, hk⟩ := hnext t ht
      rw [← ht] at hk
      exact readMembers_of_chars hkey hk hpart fuel
    split at h
    · cases h
    · next c left hleft =>
      split at h
      · next hclose =>
        subst hclose
        obtain ⟨hpairs, rfl⟩ := Prod.mk.inj (Option.some.inj h)
        obtain ⟨p, rfl, hp⟩ := List.map_eq_singleton_iff.mp hpairs.symm
        obtain ⟨after, hafter, hread⟩ := hmember hp.symm extra
        obtain ⟨hbrace, -⟩ := hafter.peek?_skipBlanks hleft (by decide)
        refine ⟨after.skipBlanks.advance, hbrace.advance (by decide), ?_⟩
        rw [List.length_singleton, hread, readMembers, nextKey_end false hafter hleft]
        rfl
      · split at h
        · next hcomma =>
          subst hcomma
          obtain ⟨⟨parts, last⟩, hparts, h⟩ := Option.bind_eq_some_iff.mp h
          obtain ⟨hpairs, rfl⟩ := Prod.mk.inj (Option.some.inj h)
          obtain ⟨p, pairs, rfl, hp, rfl⟩ := List.map_eq_cons_iff.mp hpairs.symm
          obtain ⟨after, hafter, hread⟩ := hmember hp.symm (extra + pairs.length)
          obtain ⟨hmark, -⟩ := hafter.peek?_skipBlanks hleft (by decide)
          obtain ⟨final, hfinal, hrest⟩ := ih hparts fun t ht =>
            ⟨_, nextKey_later hafter hleft ht,
              ((hmark.advance (by decide)).peek?_skipBlanks ht (by decide)).1⟩
          refine ⟨final, hfinal, ?_⟩
          rw [List.length_cons, ← Nat.add_assoc, hread, hrest]
          rfl
        · cases h

/-- A value that is an object is written as one. -/
theorem exists_of_readValue?_object {members : List (String × Document)}
    (h : readValue? (fuel + 1) s = some (.object members, rest)) :
    ∃ t, Document.skipBlanks s = '\x7b' :: t ∧
      readParts? '\x7d' (readMember? (readValue? fuel)) t = some (members, rest) := by
  rw [readValue?] at h
  split at h
  · obtain ⟨_, -, hvalue⟩ := Option.map_eq_some_iff.mp h
    cases hvalue
  · obtain ⟨_, -, hvalue⟩ := Option.map_eq_some_iff.mp h
    cases hvalue
  · next t hs =>
    obtain ⟨⟨parts, last⟩, hparts, hvalue⟩ := Option.map_eq_some_iff.mp h
    cases hvalue
    exact ⟨t, hs, hparts⟩
  · exact absurd rfl ((isScalar_of_readScalar? h).2 members)

/-- Members with strings are read up to the end of the object, behind its opening brace. -/
theorem readMembers_of_parts {pairs : List (String × String)} (hi : i.Shows s)
    (h : readParts? '\x7d' (readMember? (readValue? fuel)) s =
      some (stringMembers pairs, rest)) {size : Nat} (hsize : s.length ≤ size) (depth : Nat) :
    ∃ after, after.Shows rest ∧
      readMembers (size + 1) depth true i =
        .ok (pairs.map fun (name, value) => (name, .text value), after) := by
  rw [readParts?] at h
  split at h
  · next hclose =>
    obtain ⟨t, ht⟩ := List.head?_eq_some_iff.mp hclose
    rw [ht] at h
    obtain ⟨hpairs, rfl⟩ := Prod.mk.inj (Option.some.inj h)
    obtain rfl := List.map_eq_nil_iff.mp hpairs.symm
    obtain ⟨hbrace, -⟩ := hi.peek?_skipBlanks ht (by decide)
    refine ⟨i.skipBlanks.advance, hbrace.advance (by decide), ?_⟩
    rw [readMembers, nextKey_end true hi ht]
    rfl
  · have hlength := length_le_of_readSeparated? h
    rw [stringMembers, List.length_map] at hlength
    obtain ⟨after, hafter, hread⟩ := readMembers_of_separated h
      (fun t ht => ⟨_, nextKey_first hi ht, (hi.peek?_skipBlanks ht (by decide)).1⟩)
      (size - pairs.length) depth
    rw [Nat.sub_add_cancel (Nat.le_trans hlength hsize)] at hread
    exact ⟨after, hafter, hread⟩

/-- **Objects of texts.** An object with strings only is read with the same members. -/
theorem members?_of_ofText? {pairs : List (String × String)}
    (h : Document.ofText? s = some (.object (stringMembers pairs))) :
    members? (Utf8.encode s) = some (pairs.map fun (name, value) => (name, .text value)) := by
  obtain ⟨⟨d, rest⟩, hvalue, h⟩ := Option.bind_eq_some_iff.mp h
  dsimp only at h
  split at h
  · next hrest =>
    obtain rfl := Option.some.inj h
    obtain ⟨t, hs, hparts⟩ := exists_of_readValue?_object hvalue
    have hstart : (Input.mk (Utf8.encode s) 1 0).Shows s := rfl
    obtain ⟨hbrace, hpeek⟩ := hstart.peek?_skipBlanks hs (by decide)
    have hpeek : (Input.skipBlanks ⟨Utf8.encode s, 1, 0⟩).peek? = some 0x7B := hpeek
    have hsize : t.length ≤ 2 * (Utf8.encode s).length := by
      have hsuffix : '\x7b' :: t <:+ s := hs ▸ List.dropWhile_suffix _
      have hlength := hsuffix.length_le
      have hbytes := Utf8.length_le_encode s
      rw [List.length_cons] at hlength
      omega
    obtain ⟨after, hafter, hread⟩ :=
      readMembers_of_parts (hbrace.advance (by decide)) hparts hsize (depthLimit - 1)
    have hend : after.skipBlanks.peek? = none := by
      have hnil := hafter.skipBlanks
      rw [hrest] at hnil
      rw [peek?, hnil]
      rfl
    simp [members?, hpeek, hread, hend]
  · cases h

/-! ## Printed objects -/

/-- Texts with their names are printed as members between commas. -/
theorem renderFields_texts (pairs : List (String × String)) :
    renderFields true (pairs.map fun (name, value) => (name, .text value)) =
      [','].intercalate (pairs.map fun p =>
        Document.member escapeChar p.1 (Document.quoted escapeChar p.2)) := by
  have hmember (first : Bool) (p : String × String) (rest : Fields) :
      renderFields first ((p.1, .text p.2) :: rest) = (if first then [] else [',']) ++
        Document.member escapeChar p.1 (Document.quoted escapeChar p.2) ++
          renderFields false rest := by
    simp [renderFields, render, quote, Document.member, Document.quoted]
  cases pairs with
  | nil => rfl
  | cons p pairs =>
    induction pairs generalizing p with
    | nil => simp [hmember, renderFields]
    | cons q pairs ih =>
      have hcomma : renderFields false ((q :: pairs).map fun (name, value) => (name, .text value)) =
          ',' :: renderFields true ((q :: pairs).map fun (name, value) => (name, .text value)) := by
        simp [hmember]
      rw [List.map_cons, hmember, hcomma, ih q]
      simp [List.intercalate_cons_cons]

/-- A printed map of texts is read as an object with these texts. -/
theorem ofText?_render_texts (pairs : List (String × String)) :
    Document.ofText? (render (.map (pairs.map fun (name, value) => (name, .text value)))) =
      some (.object (stringMembers pairs)) := by
  rw [render, renderFields_texts]
  exact (Document.reads_object escapes_escapeChar fun p _ =>
    Document.reads_string escapes_escapeChar p.2).ofText?

end QueryGateway.Json
