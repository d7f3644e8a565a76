import QueryGateway.Proofs.Template.Outline

/-!
# Where actions are closed

An action is closed by the first closing braces outside of its literals. A grammar says which
texts can stand before them, and `findClose` finds just these decompositions of a source.
-/

namespace QueryGateway.Template

/-- The text between the two quotation marks of a literal. In double quotes, a backslash takes
the character behind it along, so that this one does not close the literal. -/
inductive Inside (mark : Char) : List Char → Prop
  | nil : Inside mark []
  | escape {c : Char} {s : List Char} (hmark : mark = '"') (hs : Inside mark s) :
    Inside mark ('\\' :: c :: s)
  | char {c : Char} {s : List Char} (hc : c ≠ mark) (hplain : c = '\\' → mark ≠ '"')
    (hs : Inside mark s) : Inside mark (c :: s)

/-- A text that closing braces can follow as the first ones: its literals are closed, and no
two braces close an action outside of them, not even where the text ends. -/
inductive Enclosed : List Char → Prop
  | nil : Enclosed []
  | char {c : Char} {s : List Char} (hmark : c ≠ '"' ∧ c ≠ '\x60') (hbrace : c ≠ '\x7d')
    (hs : Enclosed s) : Enclosed (c :: s)
  | brace {c : Char} {s : List Char} (hc : c ≠ '\x7d') (hs : Enclosed (c :: s)) :
    Enclosed ('\x7d' :: c :: s)
  | literal {mark : Char} {text s : List Char} (hmark : mark = '"' ∨ mark = '\x60')
    (htext : Inside mark text) (hs : Enclosed s) : Enclosed (mark :: text ++ mark :: s)

/-- Enclosed texts one after the other. -/
theorem Enclosed.append {s t : List Char} (hs : Enclosed s) (ht : Enclosed t) :
    Enclosed (s ++ t) := by
  induction hs with
  | nil => exact ht
  | char hmark hbrace _ ih => exact .char hmark hbrace ih
  | brace hc _ ih => exact .brace hc ih
  | literal hmark htext _ ih =>
    rw [List.append_assoc]
    exact .literal hmark htext ih

/-! ## Enclosed texts are passed over -/

/-- The inside of a literal is passed over. -/
theorem findClose_inside {mark : Char} {text : List Char} (htext : Inside mark text)
    (rest : List Char) :
    findClose (some mark) (text ++ rest) =
      (findClose (some mark) rest).map fun (body, after) => (text ++ body, after) := by
  induction htext with
  | nil => simp
  | escape hmark _ ih =>
    subst hmark
    simp [findClose, ih, Function.comp_def]
  | char hc hplain _ ih =>
    have hescape : ¬ (_ = '\\' ∧ mark = '"') := fun h => hplain h.1 h.2
    rw [List.cons_append, findClose.eq_def]
    simp [hc, hescape, ih, Function.comp_def]

/-- The quotation mark of a literal closes it. -/
theorem findClose_mark (mark : Char) (rest : List Char) :
    findClose (some mark) (mark :: rest) =
      (findClose none rest).map fun (body, after) => (mark :: body, after) := by
  have hescape : ¬ (mark = '\\' ∧ mark = '"') := by
    rintro ⟨rfl, h⟩
    revert h
    decide
  rw [findClose.eq_def]
  simp [hescape]

/-- The braces behind an enclosed text close the action. -/
theorem findClose_of_enclosed {body : List Char} (hbody : Enclosed body) (after : List Char) :
    findClose none (body ++ (closingBraces ++ after)) = some (body, after) := by
  induction hbody with
  | nil => simp [closingBraces, findClose]
  | char hmark hbrace _ ih =>
    rw [List.cons_append, findClose]
    simp [hmark, hbrace, ih]
  | brace hc _ ih =>
    rw [List.cons_append] at ih
    rw [List.cons_append, List.cons_append, findClose]
    simp [hc, ih]
  | @literal mark text s hmark htext _ ih =>
    have hopen (rest : List Char) : findClose none (mark :: rest) =
        (findClose (some mark) rest).map fun (body, after) => (mark :: body, after) := by
      rw [findClose]
      rcases hmark with rfl | rfl <;> simp
    rw [List.cons_append, List.cons_append, List.append_assoc, List.cons_append, hopen,
      findClose_inside htext, findClose_mark, ih]
    rfl

/-! ## What is passed over is enclosed -/

/-- What is left of an enclosed text where a literal may be open. -/
def EnclosedFrom : Option Char → List Char → Prop
  | none, body => Enclosed body
  | some mark, body => ∃ text s, body = text ++ mark :: s ∧ Inside mark text ∧ Enclosed s

/-- An enclosed text behind a character that neither begins a literal nor closes the action. -/
theorem Enclosed.cons {c : Char} {s after : List Char} (hmark : c ≠ '"' ∧ c ≠ '\x60')
    (hnext : c = '\x7d' → (s ++ (closingBraces ++ after)).head? ≠ some '\x7d')
    (hs : Enclosed s) : Enclosed (c :: s) := by
  by_cases hc : c = '\x7d'
  · subst hc
    rcases s with _ | ⟨d, s⟩
    · exact absurd rfl (hnext rfl)
    · have hd : d ≠ '\x7d' := by simpa using hnext rfl
      exact .brace hd hs
  · exact .char hmark hc hs

/-- The rest of an enclosed text behind a character that begins no literal. -/
theorem Enclosed.of_cons {c : Char} {s : List Char} (hmark : c ≠ '"' ∧ c ≠ '\x60')
    (h : Enclosed (c :: s)) : Enclosed s := by
  generalize ht : c :: s = t at h
  cases h with
  | nil => cases ht
  | char _ _ hs => exact (List.cons.inj ht).2 ▸ hs
  | brace _ hs => exact (List.cons.inj ht).2 ▸ hs
  | literal hmark' _ _ =>
    rw [← (List.cons.inj ht).1] at hmark'
    exact absurd hmark' (not_or.mpr hmark)

/-- The braces that are found stand behind an enclosed text. -/
theorem enclosedFrom_of_findClose {quote : Option Char} {s body after : List Char}
    (hfind : findClose quote s = some (body, after)) :
    s = body ++ (closingBraces ++ after) ∧ EnclosedFrom quote body := by
  fun_induction findClose quote s generalizing body after with
  | case1 => cases hfind
  | case2 => cases hfind
  | case3 c mark hescape d rest ih =>
    obtain ⟨⟨front, back⟩, hrest, hparts⟩ := Option.map_eq_some_iff.mp hfind
    obtain ⟨rfl, rfl⟩ := Prod.mk.inj hparts
    obtain ⟨rfl, text, s, rfl, htext, hs⟩ := ih hrest
    simp only [Bool.and_eq_true, beq_iff_eq] at hescape
    obtain ⟨rfl, hmark⟩ := hescape
    exact ⟨rfl, '\\' :: d :: text, s, rfl, .escape hmark htext, hs⟩
  | case4 c rest mark hescape ih =>
    obtain ⟨⟨front, back⟩, hrest, hparts⟩ := Option.map_eq_some_iff.mp hfind
    obtain ⟨rfl, rfl⟩ := Prod.mk.inj hparts
    obtain ⟨rfl, hbody⟩ := ih hrest
    refine ⟨rfl, ?_⟩
    by_cases hc : c = mark
    · subst hc
      rw [if_pos (by simp)] at hbody
      exact ⟨[], front, rfl, .nil, hbody⟩
    · rw [if_neg (by simpa using hc)] at hbody
      obtain ⟨text, s, rfl, htext, hs⟩ := hbody
      have hplain : c = '\\' → mark ≠ '"' := by
        rintro rfl rfl
        exact hescape (by decide)
      exact ⟨c :: text, s, rfl, .char hc hplain htext, hs⟩
  | case5 c rest hclose =>
    simp only [Bool.and_eq_true, beq_iff_eq] at hclose
    obtain ⟨rfl, hhead⟩ := hclose
    obtain ⟨rest, rfl⟩ := List.head?_eq_some_iff.mp hhead
    obtain ⟨rfl, rfl⟩ := Prod.mk.inj (Option.some.inj hfind)
    exact ⟨rfl, .nil⟩
  | case6 c rest hclose ih =>
    obtain ⟨⟨front, back⟩, hrest, hparts⟩ := Option.map_eq_some_iff.mp hfind
    obtain ⟨rfl, rfl⟩ := Prod.mk.inj hparts
    obtain ⟨rfl, hbody⟩ := ih hrest
    refine ⟨rfl, ?_⟩
    by_cases hmark : c = '"' ∨ c = '\x60'
    · rw [if_pos (by simpa using hmark)] at hbody
      obtain ⟨text, s, rfl, htext, hs⟩ := hbody
      exact .literal hmark htext hs
    · rw [if_neg (by simpa using hmark)] at hbody
      exact .cons (not_or.mp hmark) (by simpa using hclose) hbody

/-- **Where an action is closed.** Some braces are found as the closing ones exactly if the
text before them is enclosed. -/
theorem findClose_eq_some_iff {s body after : List Char} :
    findClose none s = some (body, after) ↔
      s = body ++ (closingBraces ++ after) ∧ Enclosed body := by
  constructor
  · exact enclosedFrom_of_findClose
  · rintro ⟨rfl, hbody⟩
    exact findClose_of_enclosed hbody after

instance : DecidablePred Enclosed := fun body =>
  decidable_of_iff (findClose none (body ++ closingBraces) = some (body, []))
    (by simp [findClose_eq_some_iff])

/-- Closing braces stay the first ones if more text follows. -/
theorem findClose_append {s body after : List Char} (hfind : findClose none s = some (body, after))
    (tail : List Char) : findClose none (s ++ tail) = some (body, after ++ tail) := by
  obtain ⟨rfl, hbody⟩ := findClose_eq_some_iff.mp hfind
  rw [List.append_assoc, List.append_assoc]
  exact findClose_of_enclosed hbody (after ++ tail)

example : Enclosed "\x7d \"\x7d\x7d\\\"\"".toList ∧ ¬ Enclosed "\"".toList := by decide +kernel

end QueryGateway.Template
