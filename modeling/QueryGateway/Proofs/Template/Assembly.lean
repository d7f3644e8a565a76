import QueryGateway.Proofs.Template.Scanning

/-!
# Assembling the pieces of outlines

The pieces of an outline form a body whatever follows them, since every branch of an
outline is closed. The texts before a piece that is no text are collected on the way.
-/

namespace QueryGateway.Template

/-- A text before a body, unless it is empty. -/
def textBody (s : List Char) (body : Body) : Body :=
  if s.isEmpty then body else .text s body

/-- The body of an outline before another body, after a text. -/
def Outline.graft (pending : List Char) : Outline → Body → Body
  | done, body => textBody pending body
  | text s rest, body => rest.graft (pending ++ s.chars) body
  | output e rest, body => textBody pending (.output e (rest.graft [] body))
  | branch condition yes rest, body =>
    textBody pending (.branch condition (yes.graft [] .nothing) .nothing (rest.graft [] body))
  | branchElse condition yes no rest, body =>
    textBody pending
      (.branch condition (yes.graft [] .nothing) (no.graft [] .nothing) (rest.graft [] body))

namespace Suffix

theorem extend_extend (f g : Body → Body) (suffix : Suffix) :
    (suffix.extend g).extend f = suffix.extend (f ∘ g) := by
  cases suffix <;> rfl

/-- A text before some pieces extends what they give. -/
theorem ofItems_textItems_append (s : List Char) (items : List Item) :
    ofItems (textItems s ++ items) = (ofItems items).extend (textBody s) := by
  cases s with
  | nil => cases h : ofItems items <;> simp [textItems, textBody, extend, h]
  | cons c s => rfl

end Suffix

/-- Pieces that do not begin with a text. -/
def Separated (items : List Item) : Prop :=
  ∀ s, items.head? ≠ some (.text s)

/-- The text before separated pieces stays a piece of its own. -/
theorem joinTexts_of_separated {items : List Item} (hitems : Separated items)
    (pending : List Char) : joinTexts pending items = textItems pending ++ joinTexts [] items := by
  rcases items with _ | ⟨item, items⟩
  · simp [joinTexts, textItems]
  · cases item with
    | text s => exact absurd rfl (hitems s)
    | _ => rfl

/-- A piece that is no text is pushed before what follows it, and a text before it
extends the result. -/
theorem ofItems_joinTexts_cons {item : Item} (hitem : ∀ s, item ≠ .text s) (pending : List Char)
    (items : List Item) :
    Suffix.ofItems (joinTexts pending (item :: items)) =
      ((Suffix.ofItems (joinTexts [] items)).push item).extend (textBody pending) := by
  have hseparated : Separated (item :: items) := fun s hs => hitem s (Option.some.inj hs)
  rw [joinTexts_of_separated hseparated, Suffix.ofItems_textItems_append]
  cases item with
  | text s => exact absurd rfl (hitem s)
  | _ => rfl

namespace Outline

/-- The pieces of an outline extend what the pieces after them give. -/
theorem ofItems_items_append (o : Outline) {tail : List Item} (htail : Separated tail)
    (pending : List Char) :
    Suffix.ofItems (joinTexts pending (o.items ++ tail)) =
      (Suffix.ofItems (joinTexts [] tail)).extend (o.graft pending) := by
  have hcloser (k : Closer) (items : List Item) : Separated (.closer k :: items) := by
    rintro s ⟨⟩
  induction o generalizing pending tail with
  | done =>
    rw [items, List.nil_append, joinTexts_of_separated htail, Suffix.ofItems_textItems_append]
    rfl
  | text s rest ih => exact ih htail (pending ++ s.chars)
  | output e rest ih =>
    rw [items, List.cons_append, ofItems_joinTexts_cons (by simp), Suffix.push, ih htail,
      Suffix.extend_extend, Suffix.extend_extend]
    rfl
  | branch condition yes rest ihy ihr =>
    have hyes : Suffix.ofItems (joinTexts [] (yes.items ++ .closer .done :: (rest.items ++ tail))) =
        .closed (yes.graft [] .nothing) .done
          (Suffix.ofItems (joinTexts [] (rest.items ++ tail))) :=
      ihy (hcloser _ _) []
    simp only [items, List.cons_append, List.append_assoc]
    rw [ofItems_joinTexts_cons (by simp), Suffix.push, hyes, Suffix.openBranch, ihr htail,
      Suffix.extend_extend, Suffix.extend_extend]
    rfl
  | branchElse condition yes no rest ihy ihn ihr =>
    have hno : Suffix.ofItems (joinTexts [] (no.items ++ .closer .done :: (rest.items ++ tail))) =
        .closed (no.graft [] .nothing) .done (Suffix.ofItems (joinTexts [] (rest.items ++ tail))) :=
      ihn (hcloser _ _) []
    have hyes : Suffix.ofItems (joinTexts []
        (yes.items ++ .closer .otherwise :: (no.items ++ .closer .done :: (rest.items ++ tail)))) =
        .closed (yes.graft [] .nothing) .otherwise
          (Suffix.ofItems (joinTexts [] (no.items ++ .closer .done :: (rest.items ++ tail)))) :=
      ihy (hcloser _ _) []
    simp only [items, List.cons_append, List.append_assoc]
    rw [ofItems_joinTexts_cons (by simp), Suffix.push, hyes, Suffix.openBranch, hno,
      Suffix.openElse, ihr htail, Suffix.extend_extend, Suffix.extend_extend]
    rfl

/-- The pieces of an outline form its body. -/
theorem ofItems_items (o : Outline) :
    Body.ofItems (joinTexts [] o.items) = .ok (o.graft [] .nothing) := by
  have hsuffix : Suffix.ofItems (joinTexts [] (o.items ++ [])) =
      (Suffix.ofItems (joinTexts [] [])).extend (o.graft []) :=
    o.ofItems_items_append (by rintro s ⟨⟩) []
  rw [List.append_nil] at hsuffix
  rw [Body.ofItems, hsuffix]
  rfl

end Outline

end QueryGateway.Template
