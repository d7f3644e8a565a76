import QueryGateway.Proofs.Calculation
import QueryGateway.Proofs.Template.Assembly
import QueryGateway.Proofs.Template.Closing
import QueryGateway.Proofs.Text.Splitting
import QueryGateway.Template.Basic

/-!
# Joined sources

Two sources can be joined where the first one ends in a text outside of its actions, and no
action beside drops blanks across the joint. Scanning the joined source gives the pieces of
both, except that the texts at the joint become one. Templates whose pieces differ in how their
texts are divided are rendered alike.
-/

namespace QueryGateway.Template

/-! ## Joints -/

/-- A source all of whose actions are closed. The flags tell whether the blanks at its start are
dropped, and whether those behind it are. -/
inductive Settled : Bool → List Char → Bool → Prop
  | text {drops : Bool} {s : List Char} (hcut : Text.cutText openingBraces s = none) :
    Settled drops s drops
  | action {drops dropsNext : Bool} {s text action body after : List Char}
    (hcut : Text.cutText openingBraces s = some (text, action))
    (hclose : findClose none (applyLeftMarker text action).2 = some (body, after))
    (hrest : Settled (takeRightMarker body).2 after dropsNext) : Settled drops s dropsNext

/-- An action that drops the blanks before it. -/
def HasLeftMarker (action : List Char) : Prop :=
  ∃ rest, action = '-' :: rest ∧ startsBlank rest = true

/-- Two sources between which other text can stand: the first one ends outside of its actions and
without a brace, and neither its last action nor the first one of the second source drops
the blanks between them. -/
structure Joint (a b : List Char) : Prop where
  settled : Settled false a false
  no_brace_last : a.getLast? ≠ some '\x7b'
  unmarked : ∀ text action, Text.cutText openingBraces b = some (text, action) →
    ¬ HasLeftMarker action

/-! ## Markers -/

/-- An action without a marker leaves the text before it alone. -/
theorem applyLeftMarker_of_unmarked {action : List Char} (haction : ¬ HasLeftMarker action)
    (text : List Char) : applyLeftMarker text action = (text, action) := by
  unfold applyLeftMarker
  split
  · next rest =>
    have hrest : ¬ startsBlank rest = true := fun h => haction ⟨rest, rfl, h⟩
    rw [if_neg hrest]
  · rfl

/-- What is left of an action does not depend on the text before it. -/
theorem applyLeftMarker_snd (text other action : List Char) :
    (applyLeftMarker text action).2 = (applyLeftMarker other action).2 := by
  unfold applyLeftMarker
  split
  · split <;> rfl
  · rfl

/-- What is left of an action is its end. -/
theorem applyLeftMarker_isSuffix (text action : List Char) :
    (applyLeftMarker text action).2 <:+ action := by
  unfold applyLeftMarker
  split
  · split
    · exact List.suffix_cons _ _
    · exact List.suffix_refl _
  · exact List.suffix_refl _

/-- A marker takes effect in the same way if text follows an action that is closed. -/
theorem applyLeftMarker_append {text action body after : List Char}
    (hclose : findClose none (applyLeftMarker text action).2 = some (body, after))
    (tail : List Char) :
    applyLeftMarker text (action ++ tail) =
      ((applyLeftMarker text action).1, (applyLeftMarker text action).2 ++ tail) := by
  -- the closing braces are two characters, so that the blank of a marker stands in the action
  have hlength : 2 ≤ action.length := by
    have := (applyLeftMarker_isSuffix text action).length_le
    rw [(findClose_eq_some_iff.mp hclose).1, closingBraces] at this
    simp only [List.length_append, List.length_cons] at this
    omega
  obtain ⟨c, d, rest, rfl⟩ : ∃ c d rest, action = c :: d :: rest := by
    rcases action with _ | ⟨c, _ | ⟨d, rest⟩⟩
    · simp at hlength
    · simp at hlength
    · exact ⟨c, d, rest, rfl⟩
  by_cases hc : c = '-'
  · subst hc
    cases hblank : Text.isBlank d <;> simp [applyLeftMarker, startsBlank, hblank]
  · have hunmarked (rest : List Char) : ¬ HasLeftMarker (c :: rest) := by
      rintro ⟨_, h, -⟩
      exact hc (List.cons.inj h).1
    rw [applyLeftMarker_of_unmarked (hunmarked _), List.cons_append,
      applyLeftMarker_of_unmarked (hunmarked _)]

/-! ## Settled sources -/

/-- A source tells whether the blanks behind it are dropped. -/
theorem Settled.unique {drops dropsNext dropsOther : Bool} {s : List Char}
    (h : Settled drops s dropsNext) (hother : Settled drops s dropsOther) :
    dropsNext = dropsOther := by
  induction h with
  | text hcut =>
    cases hother with
    | text => rfl
    | action hcutOther => simp [hcut] at hcutOther
  | action hcut hclose _ ih =>
    cases hother with
    | text hcutOther => simp [hcut] at hcutOther
    | action hcutOther hcloseOther hrestOther =>
      obtain ⟨rfl, rfl⟩ := Prod.mk.inj (Option.some.inj (hcut.symm.trans hcutOther))
      obtain ⟨rfl, rfl⟩ := Prod.mk.inj (Option.some.inj (hclose.symm.trans hcloseOther))
      exact ih hrestOther

/-- All actions of a source that can be scanned are closed. -/
theorem exists_settled_of_scan {drops : Bool} {s : List Char} {items : List Item}
    (h : scan drops s = .ok items) : ∃ dropsNext, Settled drops s dropsNext := by
  induction drops, s using scan.induct generalizing items with
  | case1 _ _ hcut => exact ⟨_, .text hcut⟩
  | case2 =>
    rename_i hcut hclose
    simp [scan_of_unclosed hcut hclose] at h
  | case3 drops s _ text action hcut body after hclose =>
    rename_i ih
    rw [scan_of_closed hcut hclose] at h
    obtain ⟨item, -, h⟩ := exists_of_bind_eq_ok h
    obtain ⟨rest, hrest, -⟩ := exists_of_map_eq_ok h
    obtain ⟨dropsNext, hnext⟩ := ih hrest
    rw [applyLeftMarker_snd _ text action] at hclose
    exact ⟨dropsNext, .action hcut hclose hnext⟩

/-! ## Scanning up to a joint -/

/-- A text without actions can stand before any text, if its last character is no brace. -/
theorem inert_of_cut {s : List Char} (hcut : Text.cutText openingBraces s = none)
    (hopen : s.getLast? ≠ some '\x7b') : Inert s :=
  inert_of_plain (Text.not_isInfix_of_cutText hcut) hopen

theorem Inert.cut_eq_none {s : List Char} (hs : Inert s) :
    Text.cutText openingBraces s = none := by
  have hcut := hs []
  rwa [List.append_nil] at hcut

/-- What stands behind an action ends as the source does. -/
theorem getLast?_ne_of_closed {c : Char} {s text action body after : List Char}
    (hcut : Text.cutText openingBraces s = some (text, action))
    (hclose : findClose none (applyLeftMarker text action).2 = some (body, after))
    (hs : s.getLast? ≠ some c) : after.getLast? ≠ some c := by
  obtain ⟨front, haction⟩ := applyLeftMarker_isSuffix text action
  have hparts := Text.eq_of_cutText hcut
  rw [← haction, (findClose_eq_some_iff.mp hclose).1] at hparts
  intro hlast
  apply hs
  simp [hparts, List.getLast?_append, hlast]

/-- Pieces before other ones, unless either cannot be scanned. -/
def prepend (before after : Except Failure (List Item)) : Except Failure (List Item) :=
  before >>= fun first => after.map (first ++ ·)

/-- The pieces before a joint do not depend on what follows, and the text there stands before
what follows. -/
theorem exists_scan_append {drops dropsNext : Bool} {a : List Char}
    (ha : Settled drops a dropsNext) (hopen : a.getLast? ≠ some '\x7b') :
    ∃ before last, Inert last ∧
      ∀ b, scan drops (a ++ b) = prepend before (scan dropsNext (last ++ b)) := by
  induction ha with
  | @text drops s hcut =>
    refine ⟨.ok [], s, inert_of_cut hcut hopen, fun b => ?_⟩
    cases scan drops (s ++ b) <;> rfl
  | @action drops dropsNext s text action body after hcut hclose _ ih =>
    obtain ⟨before, last, hlast, hscan⟩ := ih (getLast?_ne_of_closed hcut hclose hopen)
    let trimmed := if drops then Text.trimLeft text else text
    rw [applyLeftMarker_snd text trimmed action] at hclose
    refine ⟨prepend ((readAction (Text.trim (takeRightMarker body).1)).map fun item =>
      textItems (applyLeftMarker trimmed action).1 ++ item.toList) before, last, hlast,
      fun b => ?_⟩
    have hcutJoined : Text.cutText openingBraces (s ++ b) = some (text, action ++ b) :=
      Text.cutText_append_of_some (by decide) hcut b
    have happly := applyLeftMarker_append hclose b
    have hcloseJoined : findClose none (applyLeftMarker trimmed (action ++ b)).2 =
        some (body, after ++ b) := by
      rw [happly]
      exact findClose_append hclose b
    rw [scan_of_closed hcutJoined hcloseJoined, hscan, happly]
    cases readAction (Text.trim (takeRightMarker body).1) with
    | error e => rfl
    | ok item =>
      rcases before with e | before
      · rfl
      · cases scan dropsNext (last ++ b) with
        | error e => rfl
        | ok items => simp [prepend, bind, Except.bind, Except.map]

/-- The pieces of a source end in the text before its joint. -/
theorem scan_of_scan_append {drops dropsNext : Bool} {a last : List Char}
    {before : Except Failure (List Item)} (hlast : Inert last)
    (hscan : ∀ b, scan drops (a ++ b) = prepend before (scan dropsNext (last ++ b))) :
    scan drops a =
      prepend before (.ok (textItems (if dropsNext then Text.trimLeft last else last))) := by
  have hend := hscan []
  rw [List.append_nil, List.append_nil, scan_of_cut_none hlast.cut_eq_none] at hend
  exact hend

/-- A text before a joint extends the first text behind it. -/
theorem exists_scan_behind {b : List Char}
    (hb : ∀ text action, Text.cutText openingBraces b = some (text, action) →
      ¬ HasLeftMarker action) :
    ∃ text after, ∀ last, Inert last →
      scan false (last ++ b) = prepend (.ok (textItems (last ++ text))) after := by
  cases hcut : Text.cutText openingBraces b with
  | none =>
    refine ⟨b, .ok [], fun last hlast => ?_⟩
    have hcutJoined : Text.cutText openingBraces (last ++ b) = none := by rw [hlast, hcut]; rfl
    rw [scan_of_cut_none hcutJoined]
    simp [prepend, bind, Except.bind, Except.map]
  | some parts =>
    obtain ⟨text, action⟩ := parts
    have hcutJoined (last : List Char) (hlast : Inert last) :
        Text.cutText openingBraces (last ++ b) = some (last ++ text, action) := by
      rw [hlast, hcut]
      rfl
    have happly := applyLeftMarker_of_unmarked (hb text action hcut)
    cases hclose : findClose none action with
    | none =>
      refine ⟨text, .error .unclosedAction, fun last hlast => ?_⟩
      rw [scan_of_unclosed (hcutJoined last hlast) (by rw [happly]; exact hclose)]
      rfl
    | some parts =>
      obtain ⟨body, after⟩ := parts
      refine ⟨text, readAction (Text.trim (takeRightMarker body).1) >>= fun item =>
        (scan (takeRightMarker body).2 after).map (item.toList ++ ·), fun last hlast => ?_⟩
      rw [scan_of_closed (hcutJoined last hlast) (by rw [happly]; exact hclose), happly]
      cases readAction (Text.trim (takeRightMarker body).1) with
      | error e => rfl
      | ok item => cases scan (takeRightMarker body).2 after <;>
          simp [prepend, bind, Except.bind, Except.map]

/-! ## Joining texts -/

/-- A text before some pieces is joined with the text before it. -/
theorem joinTexts_textItems_append (pending s : List Char) (items : List Item) :
    joinTexts pending (textItems s ++ items) = joinTexts (pending ++ s) items := by
  cases s with
  | nil => simp [textItems]
  | cons c s => rfl

/-- Pieces whose texts can be joined in the same way can be so behind other pieces. -/
theorem joinTexts_append_congr {items others : List Item}
    (hitems : ∀ pending, joinTexts pending items = joinTexts pending others)
    (before : List Item) (pending : List Char) :
    joinTexts pending (before ++ items) = joinTexts pending (before ++ others) := by
  induction before generalizing pending with
  | nil => exact hitems pending
  | cons item before ih =>
    cases item with
    | text s => exact ih (pending ++ s)
    | _ => simp [joinTexts, ih]

/-- The pieces of a source, with neighbouring texts joined. -/
def joinedScan (source : List Char) : Except Failure (List Item) :=
  (scan false source).map (joinTexts [])

/-- A joined source has the pieces of both sources. -/
theorem joinedScan_append {a b : List Char} (h : Joint a b) :
    joinedScan (a ++ b) = (prepend (scan false a) (scan false b)).map (joinTexts []) := by
  obtain ⟨before, last, hlast, hbefore⟩ := exists_scan_append h.settled h.no_brace_last
  obtain ⟨text, after, hafter⟩ := exists_scan_behind h.unmarked
  have hfirst : scan false a = prepend before (.ok (textItems last)) :=
    scan_of_scan_append hlast hbefore
  have hsecond : scan false b = prepend (.ok (textItems text)) after := hafter [] inert_nil
  rw [joinedScan, hbefore, hafter last hlast, hfirst, hsecond]
  rcases before with e | before
  · rfl
  · rcases after with e | after
    · rfl
    · have hjoin (pending : List Char) :
          joinTexts pending (textItems (last ++ text) ++ after) =
            joinTexts pending (textItems last ++ (textItems text ++ after)) := by
        simp [joinTexts_textItems_append]
      simpa [prepend, bind, Except.bind, Except.map] using joinTexts_append_congr hjoin before []

end QueryGateway.Template
