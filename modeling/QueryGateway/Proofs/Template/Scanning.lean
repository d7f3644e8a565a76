import QueryGateway.Proofs.Template.Actions

/-!
# Scanning printed sources

A source that consists of printed texts and actions is scanned into just these
pieces, except that texts without an action between them become one text, and empty
texts vanish. One lemma scans one action, with any text before it and any source
after it; the theorem for whole sources follows by induction.
-/

namespace QueryGateway.Template

/-! ## Texts -/

/-- A text before which no action is found: what is found after it stays as it is. -/
def Inert (s : List Char) : Prop :=
  ∀ t, Text.cutText openingBraces (s ++ t) =
    (Text.cutText openingBraces t).map fun (before, after) => (s ++ before, after)

theorem inert_nil : Inert [] := by
  intro t
  simp

theorem Inert.append {s t : List Char} (hs : Inert s) (ht : Inert t) : Inert (s ++ t) := by
  intro u
  rw [List.append_assoc, hs, ht]
  cases Text.cutText openingBraces u <;> simp

/-- Opening braces do not begin inside a text that is plain, even if more text follows. -/
theorem inert_of_plain {s : List Char} (hplain : ¬ openingBraces <:+: s)
    (hopen : s.getLast? ≠ some '\x7b') : Inert s := by
  intro t
  induction s with
  | nil => simp
  | cons c s ih =>
    have hstart : openingBraces.isPrefixOf (c :: (s ++ t)) = false := by
      rw [Bool.eq_false_iff, Ne, List.isPrefixOf_iff_prefix]
      intro hbraces
      rcases s with _ | ⟨d, s⟩
      · have hc : '\x7b' = c := (List.cons_prefix_cons.mp hbraces).1
        exact hopen (by simp [← hc])
      · rw [List.cons_append] at hbraces
        obtain ⟨hc, hrest⟩ := List.cons_prefix_cons.mp hbraces
        have hd := (List.cons_prefix_cons.mp hrest).1
        exact hplain ⟨[], s, by simp [openingBraces, ← hc, ← hd]⟩
    have hs : ¬ openingBraces <:+: s := fun h => hplain (List.infix_cons h)
    have hsopen : s.getLast? ≠ some '\x7b' := by
      intro hlast
      apply hopen
      rw [List.getLast?_cons, hlast]
      rfl
    rw [List.cons_append, Text.cutText, hstart, ih hs hsopen]
    cases Text.cutText openingBraces t <;> simp

/-! ## One action -/

/-- A source whose first action is closed: the action is read, and the source behind it is
scanned. -/
theorem scan_of_closed {trimNext : Bool} {source text action body after : List Char}
    (hcut : Text.cutText openingBraces source = some (text, action))
    (hclose : findClose none
      (applyLeftMarker (if trimNext then Text.trimLeft text else text) action).2 =
        some (body, after)) :
    scan trimNext source =
      readAction (Text.trim (takeRightMarker body).1) >>= fun item =>
        (scan (takeRightMarker body).2 after).map fun items =>
          textItems (applyLeftMarker (if trimNext then Text.trimLeft text else text) action).1 ++
            item.toList ++ items := by
  rw [scan]
  split
  · next h => simp [hcut] at h
  · next t a h =>
    rw [hcut] at h
    simp only [Option.some.injEq, Prod.mk.injEq] at h
    obtain ⟨rfl, rfl⟩ := h
    split
    · next h => simp [hclose] at h
    · next b r h =>
      rw [hclose] at h
      simp only [Option.some.injEq, Prod.mk.injEq] at h
      obtain ⟨rfl, rfl⟩ := h
      cases readAction (Text.trim (takeRightMarker body).1) <;> rfl

/-- A source whose first action is closed and can be read. -/
theorem scan_of_cut {trimNext : Bool} {source text action body after : List Char}
    {item : Option Item} (hcut : Text.cutText openingBraces source = some (text, action))
    (hclose : findClose none
      (applyLeftMarker (if trimNext then Text.trimLeft text else text) action).2 =
        some (body, after))
    (hitem : readAction (Text.trim (takeRightMarker body).1) = .ok item) :
    scan trimNext source = (scan (takeRightMarker body).2 after).map fun items =>
      textItems (applyLeftMarker (if trimNext then Text.trimLeft text else text) action).1 ++
        item.toList ++ items := by
  rw [scan_of_closed hcut hclose, hitem]
  rfl

/-- A source whose first action is not closed. -/
theorem scan_of_unclosed {trimNext : Bool} {source text action : List Char}
    (hcut : Text.cutText openingBraces source = some (text, action))
    (hclose : findClose none
      (applyLeftMarker (if trimNext then Text.trimLeft text else text) action).2 = none) :
    scan trimNext source = .error .unclosedAction := by
  rw [scan]
  split
  · next h => simp [hcut] at h
  · next t a h =>
    rw [hcut] at h
    simp only [Option.some.injEq, Prod.mk.injEq] at h
    obtain ⟨rfl, rfl⟩ := h
    split
    · rfl
    · next h => simp [hclose] at h

/-- A source without an action. -/
theorem scan_of_cut_none {trimNext : Bool} {source : List Char}
    (hcut : Text.cutText openingBraces source = none) :
    scan trimNext source =
      .ok (textItems (if trimNext then Text.trimLeft source else source)) := by
  rw [scan]
  split
  · rfl
  · next h => simp [hcut] at h

/-- One printed action, after a text without actions and before any source. -/
theorem scan_printAction {pending body rest : List Char} {item : Item} (hpending : Inert pending)
    (hbody : ActionBody body item) :
    scan false (pending ++ (printAction body ++ rest)) =
      (scan false rest).map fun items => textItems pending ++ item :: items := by
  have hcut : Text.cutText openingBraces (pending ++ (printAction body ++ rest)) =
      some (pending, ' ' :: (body ++ ' ' :: (closingBraces ++ rest))) := by
    rw [hpending]
    simp [printAction, openingBraces, Text.cutText]
  have hspaces : Passes [' '] := passes_of_plain (by decide)
  have hclose : findClose none (' ' :: (body ++ ' ' :: (closingBraces ++ rest))) =
      some (' ' :: (body ++ [' ']), rest) := by
    have hpassed := ((hspaces.append hbody.passes).append hspaces) (closingBraces ++ rest)
    have hend : findClose none (closingBraces ++ rest) = some ([], rest) := by
      simp [closingBraces, findClose]
    rw [hend] at hpassed
    simpa using hpassed
  have hright : takeRightMarker (' ' :: (body ++ [' '])) = (' ' :: (body ++ [' ']), false) := by
    simp [takeRightMarker, Text.dropSuffix?, Text.dropPrefix?]
  have hitem : readAction (Text.trim (takeRightMarker (' ' :: (body ++ [' ']))).1) =
      .ok (some item) := by
    rw [hright, trim_framed hbody.framed, hbody.reads]
  rw [scan_of_cut hcut hclose hitem, hright]
  simp [applyLeftMarker]

/-! ## Pieces -/

/-- A piece in the syntax of templates. -/
def Item.print : Item → List Char
  | .text s => s
  | .output e => printAction e.print
  | .condition e => printCondition e
  | .closer k => printCloser k

/-- The pieces that scanning finds, after a text before them: neighbouring texts are
one piece, and empty texts are none. -/
def joinTexts (pending : List Char) : List Item → List Item
  | [] => textItems pending
  | .text s :: items => joinTexts (pending ++ s) items
  | item :: items => textItems pending ++ item :: joinTexts [] items

/-- Pieces whose texts can stand before an action. -/
def InertTexts (items : List Item) : Prop :=
  ∀ s, .text s ∈ items → Inert s

/-- Scanning the printed pieces gives these pieces, with their texts joined. -/
theorem scan_print {items : List Item} (hitems : InertTexts items) {pending : List Char}
    (hpending : Inert pending) :
    scan false (pending ++ items.flatMap Item.print) = .ok (joinTexts pending items) := by
  induction items generalizing pending with
  | nil =>
    have hcut := hpending []
    rw [scan_of_cut_none (by simpa [Text.cutText, openingBraces] using hcut)]
    simp [joinTexts]
  | cons item items ih =>
    have hrest : InertTexts items := fun s hs => hitems s (List.mem_cons_of_mem item hs)
    have haction {body : List Char} (hbody : ActionBody body item)
        (hprint : item.print = printAction body)
        (hjoin : joinTexts pending (item :: items) =
          textItems pending ++ item :: joinTexts [] items) :
        scan false (pending ++ (item :: items).flatMap Item.print) =
          .ok (joinTexts pending (item :: items)) := by
      have hscan := ih hrest inert_nil
      rw [List.nil_append] at hscan
      rw [List.flatMap_cons, hprint, scan_printAction hpending hbody, hscan, hjoin]
      rfl
    cases item with
    | text s =>
      have hs : Inert s := hitems s List.mem_cons_self
      have hscan := ih hrest (hpending.append hs)
      rwa [List.append_assoc] at hscan
    | output e => exact haction (actionBody_output e) rfl rfl
    | condition e => exact haction (actionBody_condition e) rfl rfl
    | closer k => exact haction (actionBody_closer k) rfl rfl

/-! ## Outlines -/

namespace Outline

/-- The pieces of an outline. -/
def items : Outline → List Item
  | done => []
  | text s rest => .text s.chars :: rest.items
  | output e rest => .output e :: rest.items
  | branch condition yes rest =>
    .condition condition :: yes.items ++ .closer .done :: rest.items
  | branchElse condition yes no rest =>
    .condition condition :: yes.items ++ .closer .otherwise :: no.items ++
      .closer .done :: rest.items

/-- An outline prints its pieces. -/
theorem print_eq_items (o : Outline) : o.print = o.items.flatMap Item.print := by
  induction o with
  | done => rfl
  | text s rest ih => simp [print, items, Item.print, ih]
  | output e rest ih => simp [print, items, Item.print, ih]
  | branch condition yes rest ihy ihr => simp [print, items, Item.print, ihy, ihr]
  | branchElse condition yes no rest ihy ihn ihr =>
    simp [print, items, Item.print, ihy, ihn, ihr]

/-- The texts of an outline can stand before an action. -/
theorem inertTexts_items (o : Outline) : InertTexts o.items := by
  intro s hs
  induction o with
  | done => simp [items] at hs
  | text t rest ih =>
    rcases List.mem_cons.mp hs with htext | hs
    · obtain rfl := Item.text.inj htext
      exact inert_of_plain t.no_braces t.no_brace_last
    · exact ih hs
  | output e rest ih =>
    simp only [items, List.mem_cons, reduceCtorEq, false_or] at hs
    exact ih hs
  | branch condition yes rest ihy ihr =>
    simp only [items, List.mem_cons, List.mem_append, reduceCtorEq, false_or] at hs
    rcases hs with hs | hs
    · exact ihy hs
    · exact ihr hs
  | branchElse condition yes no rest ihy ihn ihr =>
    simp only [items, List.mem_cons, List.mem_append, reduceCtorEq, false_or] at hs
    rcases hs with (hs | hs) | hs
    · exact ihy hs
    · exact ihn hs
    · exact ihr hs

/-- Scanning a printed outline gives its pieces, with their texts joined. -/
theorem scan_print (o : Outline) : scan false o.print = .ok (joinTexts [] o.items) := by
  rw [print_eq_items]
  exact Template.scan_print o.inertTexts_items inert_nil

end Outline

end QueryGateway.Template
