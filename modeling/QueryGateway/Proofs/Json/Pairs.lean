import Mathlib.Tactic.SplitIfs
import QueryGateway.Proofs.Json.Reading

/-!
# Members of objects

A member is the text of a string, a colon and the text of one value. Since the reader of
strings does not look beyond the closing quote, a text is a member in at most one way, and
the name in front of the colon can be split off.
-/

namespace QueryGateway.Json.Document

/-! ## What a reader does not look at -/

/-- A reader that is not influenced by what stands behind the part that it takes. -/
def Extends {α : Type} (read : List Char → Option (α × List Char)) : Prop :=
  ∀ s a rest more, read s = some (a, rest) → read (s ++ more) = some (a, rest ++ more)

theorem extends_readHex? : Extends readHex? := by
  intro s n rest more h
  unfold readHex? at h
  split at h
  · obtain ⟨a, ha, h⟩ := Option.bind_eq_some_iff.mp h
    obtain ⟨b, hb, h⟩ := Option.bind_eq_some_iff.mp h
    obtain ⟨c, hc, h⟩ := Option.bind_eq_some_iff.mp h
    obtain ⟨d, hd, h⟩ := Option.bind_eq_some_iff.mp h
    obtain ⟨rfl, rfl⟩ := Prod.mk.inj (Option.some.inj h)
    simp [readHex?, ha, hb, hc, hd]
  · cases h

theorem extends_readUnicode? : Extends readUnicode? := by
  intro s c rest more h
  obtain ⟨⟨high, tail⟩, hhigh, h⟩ := Option.bind_eq_some_iff.mp h
  have hhigh := extends_readHex? _ _ _ more hhigh
  dsimp only at h
  split at h
  · next hsurrogate =>
    split at h
    · obtain ⟨⟨low, last⟩, hlow, h⟩ := Option.bind_eq_some_iff.mp h
      have hlow := extends_readHex? _ _ _ more hlow
      dsimp only at h
      split at h
      · next hpair =>
        obtain ⟨rfl, rfl⟩ := Prod.mk.inj (Option.some.inj h)
        simp [readUnicode?, hhigh, hsurrogate, hlow, hpair]
      · cases h
    · cases h
  · next hplain =>
    split at h
    · cases h
    · next hlow =>
      obtain ⟨rfl, rfl⟩ := Prod.mk.inj (Option.some.inj h)
      simp [readUnicode?, hhigh, hplain, hlow]

theorem extends_readEscape? : Extends readEscape? := by
  intro s c rest more h
  cases s with
  | nil => cases h
  | cons d tail =>
    have hshort {e : Char} (h : some (e, tail) = some (c, rest)) :
        some (e, tail ++ more) = some (c, rest ++ more) := by
      obtain ⟨rfl, rfl⟩ := Prod.mk.inj (Option.some.inj h)
      rfl
    rw [readEscape?] at h
    rw [List.cons_append, readEscape?]
    split_ifs at h ⊢ with hself hb hf hn hr ht hu
    · exact hshort h
    · exact hshort h
    · exact hshort h
    · exact hshort h
    · exact hshort h
    · exact hshort h
    · exact extends_readUnicode? _ _ _ more h

theorem extends_readChar? : Extends readChar? := by
  intro s c rest more h
  cases s with
  | nil => cases h
  | cons d tail =>
    rw [readChar?] at h
    rw [List.cons_append, readChar?]
    split_ifs at h ⊢ with hquote hslash hcontrol
    · exact extends_readEscape? _ _ _ more h
    · obtain ⟨rfl, rfl⟩ := Prod.mk.inj (Option.some.inj h)
      rfl

/-- The fuel of the reader of strings does not matter either, if it suffices. -/
theorem readChars?_append {n m : Nat} {s cs rest : List Char} (h : readChars? n s = some (cs, rest))
    (hle : n ≤ m) (more : List Char) : readChars? m (s ++ more) = some (cs, rest ++ more) := by
  induction n generalizing s cs m with
  | zero => cases h
  | succ n ih =>
    obtain ⟨m, rfl⟩ : ∃ k, m = k + 1 := ⟨m - 1, by omega⟩
    rw [readChars?] at h ⊢
    split at h
    · next hquote =>
      obtain ⟨tail, rfl⟩ := List.head?_eq_some_iff.mp hquote
      obtain ⟨rfl, rfl⟩ := Prod.mk.inj (Option.some.inj h)
      simp
    · next hquote =>
      obtain ⟨⟨c, mid⟩, hchar, h⟩ := Option.bind_eq_some_iff.mp h
      obtain ⟨⟨chars, tail⟩, hchars, h⟩ := Option.bind_eq_some_iff.mp h
      obtain ⟨rfl, rfl⟩ := Prod.mk.inj (Option.some.inj h)
      have hhead : (s ++ more).head? ≠ some '"' := by
        cases s with
        | nil => cases hchar
        | cons d s => exact hquote
      rw [if_neg hhead, extends_readChar? _ _ _ more hchar]
      simp [ih hchars (show n ≤ m by omega)]

theorem extends_readString? : Extends readString? := by
  intro s name rest more h
  obtain ⟨⟨chars, tail⟩, hchars, hname⟩ := Option.map_eq_some_iff.mp h
  obtain ⟨rfl, rfl⟩ := Prod.mk.inj hname
  have hle : s.length + 1 ≤ (s ++ more).length + 1 := by
    rw [List.length_append]
    omega
  rw [readString?, readChars?_append hchars hle more]
  rfl

/-! ## The two sides of the colon -/

/-- A text that is one member of an object: the text of a string, which is its name, a colon,
and the text of one value. -/
def IsMember (s : List Char) (name : String) (d : Document) : Prop :=
  ∃ key value, s = key ++ ':' :: value ∧ ofText? key = some (.string name) ∧
    ofText? value = some d

variable {escape : Char → List Char} {name : String} {value : List Char}

/-- A quoted name, a colon and the text of a document are a member. -/
theorem isMember_member (hescape : Escapes escape) {d : Document} (hvalue : Reads value d) :
    IsMember (member escape name value) name d :=
  ⟨quoted escape name, value, rfl, (reads_string hescape name).ofText?, hvalue.ofText?⟩

/-- The text of a string begins with a quotation mark, unless it begins with a blank. -/
theorem readString?_of_ofText? {s : List Char} {k : String}
    (h : ofText? ('"' :: s) = some (.string k)) :
    ∃ rest, readString? s = some (k, rest) ∧ skipBlanks rest = [] := by
  obtain ⟨⟨d, rest⟩, hread, h⟩ := Option.bind_eq_some_iff.mp h
  rw [readValue?, skipBlanks_cons (by decide)] at hread
  obtain ⟨⟨text, tail⟩, htext, hpair⟩ := Option.map_eq_some_iff.mp hread
  obtain ⟨rfl, rfl⟩ := Prod.mk.inj hpair
  dsimp only at h
  split at h
  · next hblank =>
    obtain rfl := Document.string.inj (Option.some.inj h)
    exact ⟨tail, htext, hblank⟩
  · cases h

/-- Whatever follows a quoted name and a colon has to be the text of the value. -/
theorem IsMember.of_member (hescape : Escapes escape) {k : String} {d : Document}
    (h : IsMember (member escape name value) k d) : k = name ∧ ofText? value = some d := by
  obtain ⟨key, rest, hshape, hkey, hrest⟩ := h
  rw [member, quoted, List.cons_append, List.cons_append, List.append_assoc,
    List.singleton_append] at hshape
  cases key with
  | nil => cases hkey
  | cons c key =>
    rw [List.cons_append] at hshape
    obtain ⟨rfl, htail⟩ := List.cons.inj hshape
    obtain ⟨after, hread, hblank⟩ := readString?_of_ofText? hkey
    have hname := readString?_quoted hescape name (':' :: value)
    have hread := extends_readString? _ _ _ (':' :: rest) hread
    rw [← htail] at hread
    obtain ⟨rfl, hafter⟩ := Prod.mk.inj (Option.some.inj (hname.symm.trans hread))
    cases after with
    | nil =>
      obtain ⟨-, rfl⟩ := List.cons.inj hafter
      exact ⟨rfl, hrest⟩
    | cons b after =>
      obtain ⟨rfl, -⟩ := List.cons.inj hafter
      rw [skipBlanks_cons (by decide)] at hblank
      cases hblank

end QueryGateway.Json.Document
