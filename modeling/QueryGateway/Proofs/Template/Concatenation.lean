import QueryGateway.Proofs.Template.Rendering

/-!
# Concatenated templates

Two templates can be written one after the other where their sources form a joint. No action of
the first source reaches into the second one, and all branches of the first source are closed at
its end, so that the second body simply follows the first. Rendering gives both texts, or the
first failure.
-/

namespace QueryGateway.Template

/-! ## Bodies one after the other -/

/-- A body followed by another one. -/
def Body.append : Body → Body → Body
  | nothing, next => next
  | text s rest, next => .text s (rest.append next)
  | output e rest, next => .output e (rest.append next)
  | branch condition yes no rest, next => .branch condition yes no (rest.append next)

/-- The texts of two calculations one after the other, or the first failure. -/
def thenText (first rest : Except TypeFailure String) : Except TypeFailure String := do
  let s ← first
  let t ← rest
  .ok (s ++ t)

/-- Texts are put together in any grouping. -/
theorem thenText_assoc (a b c : Except TypeFailure String) :
    thenText (thenText a b) c = thenText a (thenText b c) := by
  rcases a with e | a
  · rfl
  · rcases b with e | b
    · rfl
    · rcases c with e | c
      · rfl
      · exact congrArg Except.ok String.append_assoc

/-- The first part of a body is rendered before the rest. -/
theorem render_append (look : Lookups) (b next : Body) :
    (b.append next).render look = thenText (b.render look) (next.render look) := by
  induction b with
  | nothing =>
    cases h : next.render look <;>
      simp [Body.append, Body.render, thenText, h, bind, Except.bind]
  | text s rest ih =>
    have hparts (body : Body) : (Body.text s body).render look =
        thenText (.ok (String.ofList s)) (body.render look) := rfl
    rw [Body.append, hparts, hparts, ih, thenText_assoc]
  | output e rest ih =>
    have hparts (body : Body) : (Body.output e body).render look =
        thenText ((e.eval look).map Value.toText) (body.render look) := by
      rw [Body.render]
      cases e.eval look <;> rfl
    rw [Body.append, hparts, hparts, ih, thenText_assoc]
  | branch condition yes no rest _ _ ih =>
    have hparts (body : Body) : (Body.branch condition yes no body).render look =
        thenText (condition.eval look >>= fun v =>
          if v.isTrue then yes.render look else no.render look) (body.render look) := by
      rw [Body.render]
      rcases condition.eval look with e | v
      · rfl
      · simp only [bind, Except.bind]
        cases v.isTrue <;> rfl
    rw [Body.append, hparts, hparts, ih, thenText_assoc]

/-! ## Suffixes that more pieces follow -/

namespace Suffix

/-- A suffix in which every branch is closed. Pieces that follow do not change how it begins. -/
inductive Complete : Suffix → Prop
  | whole (b : Body) : Complete (.whole b)
  | closed (b : Body) (k : Closer) {rest : Suffix} (hrest : Complete rest) :
    Complete (.closed b k rest)

/-- A suffix with another one in place of its end. -/
def append : Suffix → Suffix → Suffix
  | whole b, next => next.extend b.append
  | closed b k rest, next => .closed b k (rest.append next)
  | failed e, _ => .failed e

variable {s next : Suffix}

/-- A change of the first body does not close a branch. -/
theorem Complete.of_extend {f : Body → Body} (h : (s.extend f).Complete) : s.Complete := by
  cases s with
  | whole b => exact .whole b
  | closed b k rest =>
    obtain _ | ⟨_, _, hrest⟩ := h
    exact .closed b k hrest
  | failed e => cases h

/-- The first body is changed in the same way if another suffix follows. -/
theorem append_extend {f : Body → Body} (hf : ∀ b c, f (Body.append b c) = (f b).append c)
    (s next : Suffix) : (s.append next).extend f = (s.extend f).append next := by
  cases s with
  | whole b =>
    have hcompose : f ∘ b.append = (f b).append := funext (hf b)
    rw [append, extend_extend, hcompose]
    rfl
  | closed b k rest => rfl
  | failed e => rfl

/-- What a branch with two bodies needs is not changed by what follows. -/
theorem Complete.openElse {condition : Expression} {yes : Body}
    (h : (s.openElse condition yes).Complete) :
    s.Complete ∧ ∀ next, (s.append next).openElse condition yes =
      (s.openElse condition yes).append next := by
  cases s with
  | whole b => cases h
  | closed no k rest =>
    cases k with
    | otherwise => cases h
    | done => exact ⟨.closed no .done h.of_extend, append_extend (fun _ _ => rfl) rest⟩
  | failed e => cases h

/-- What a branch needs is not changed by what follows. -/
theorem Complete.openBranch {condition : Expression} (h : (s.openBranch condition).Complete) :
    s.Complete ∧ ∀ next, (s.append next).openBranch condition =
      (s.openBranch condition).append next := by
  cases s with
  | whole b => cases h
  | closed yes k rest =>
    cases k with
    | done => exact ⟨.closed yes .done h.of_extend, append_extend (fun _ _ => rfl) rest⟩
    | otherwise =>
      obtain ⟨hrest, happend⟩ := Complete.openElse h
      exact ⟨.closed yes .otherwise hrest, happend⟩
  | failed e => cases h

/-- A piece that gives a complete suffix is put before a complete one, and gives the same
whatever follows. -/
theorem Complete.push {item : Item} (h : (s.push item).Complete) :
    s.Complete ∧ ∀ next, (s.append next).push item = (s.push item).append next := by
  cases item with
  | text t => exact ⟨h.of_extend, append_extend (fun _ _ => rfl) s⟩
  | output e => exact ⟨h.of_extend, append_extend (fun _ _ => rfl) s⟩
  | condition e => exact Complete.openBranch h
  | closer k =>
    obtain _ | ⟨_, _, hrest⟩ := h
    exact ⟨hrest, fun _ => rfl⟩

/-- Pieces whose branches are closed give the same beginning whatever pieces follow. -/
theorem ofItems_append {items : List Item} (h : (ofItems items).Complete) (others : List Item) :
    ofItems (items ++ others) = (ofItems items).append (ofItems others) := by
  induction items with
  | nil =>
    have hextend : ∀ s : Suffix, s.extend Body.nothing.append = s := by
      intro s
      cases s <;> rfl
    exact (hextend _).symm
  | cons item items ih =>
    have hpush : ((ofItems items).push item).Complete := h
    obtain ⟨hitems, happend⟩ := hpush.push
    calc ofItems (item :: items ++ others)
        = (ofItems (items ++ others)).push item := rfl
      _ = ((ofItems items).append (ofItems others)).push item := by rw [ih hitems]
      _ = ((ofItems items).push item).append (ofItems others) := happend _

/-- A suffix that gives a body is this body. -/
theorem eq_whole_of_toBody {body : Body} (h : s.toBody = .ok body) : s = .whole body := by
  cases s with
  | whole b => exact congrArg _ (Except.ok.inj h)
  | closed _ _ _ => cases h
  | failed e => cases h

end Suffix

/-- The bodies of two lists of pieces follow one another. -/
theorem ofItems_append {items others : List Item} {b next : Body}
    (hitems : Body.ofItems items = .ok b) (hothers : Body.ofItems others = .ok next) :
    Body.ofItems (items ++ others) = .ok (b.append next) := by
  have hfirst := Suffix.eq_whole_of_toBody hitems
  have hsecond := Suffix.eq_whole_of_toBody hothers
  have hcomplete : (Suffix.ofItems items).Complete := by
    rw [hfirst]
    exact .whole b
  rw [Body.ofItems, Suffix.ofItems_append hcomplete, hfirst, hsecond]
  rfl

/-! ## Templates one after the other -/

/-- **Concatenated templates.** Take two sources that are templates on their own, the first one
without a brace at its end and without a marker that drops the blanks behind it, the second one
without a marker that drops the blanks before it. One after the other they are a template, and
whatever the lookups are, it is rendered as the first template followed by the second one: it
fails as the first one does, or else as the second one does, and otherwise gives both texts. -/
theorem compile_append {name a b : String} {s t : Template}
    (hs : compile name a = .ok s) (ht : compile name b = .ok t)
    (hbrace : a.toList.getLast? ≠ some '\x7b') (hlast : ¬ Settled false a.toList true)
    (hfirst : ∀ text action, Text.cutText openingBraces b.toList = some (text, action) →
      ¬ HasLeftMarker action) :
    ∃ u, compile name (a ++ b) = .ok u ∧ u.name = name ∧
      ∀ look, u.render look = thenText (s.render look) (t.render look) := by
  rw [← String.ofList_toList (s := a)] at hs
  rw [← String.ofList_toList (s := b)] at ht
  obtain ⟨items, hitems, hbody⟩ := exists_scan_of_compile hs
  obtain ⟨others, hothers, hnext⟩ := exists_scan_of_compile ht
  have hjoint : Joint a.toList b.toList := by
    obtain ⟨drops, hsettled⟩ := exists_settled_of_scan hitems
    cases drops with
    | false => exact ⟨hsettled, hbrace, hfirst⟩
    | true => exact absurd hsettled hlast
  have hjoined := joinedScan_append hjoint
  rw [hitems, hothers] at hjoined
  obtain ⟨scanned, hscanned, hjoin⟩ := exists_of_map_eq_ok hjoined
  obtain ⟨u, hu, hname, hrender⟩ :=
    exists_compile_of_joinTexts hscanned hjoin (ofItems_append hbody hnext)
  rw [String.ofList_append, String.ofList_toList, String.ofList_toList] at hu
  refine ⟨u, hu, hname, fun look => ?_⟩
  rw [render, hrender, render_append]
  rfl

/-- A branch before an output that always fails and drops the blanks behind it. The braces beside
the joint open and close nothing. -/
theorem compile_append_branch :
    let a := "\x7b\x7b if Bool \"x\" \x7d\x7da\x7b\x7b end \x7d\x7d\x7d"
    let b := "\x7b \x7b\x7b Param (Bool \"y\") -\x7d\x7d c"
    ∃ s t u, compile "t" a = .ok s ∧ compile "t" b = .ok t ∧ compile "t" (a ++ b) = .ok u ∧
      ∀ look, u.render look = thenText (s.render look) (t.render look) := by
  intro a b
  have hsettled : Settled false a.toList false := by
    have hcut : Text.cutText openingBraces a.toList =
        some ([], " if Bool \"x\" \x7d\x7da\x7b\x7b end \x7d\x7d\x7d".toList) := by
      decide +kernel
    have hclose : findClose none (applyLeftMarker []
        " if Bool \"x\" \x7d\x7da\x7b\x7b end \x7d\x7d\x7d".toList).2 =
          some (" if Bool \"x\" ".toList, "a\x7b\x7b end \x7d\x7d\x7d".toList) := by
      decide +kernel
    have hcutEnd : Text.cutText openingBraces "a\x7b\x7b end \x7d\x7d\x7d".toList =
        some (['a'], " end \x7d\x7d\x7d".toList) := by decide +kernel
    have hcloseEnd : findClose none (applyLeftMarker ['a'] " end \x7d\x7d\x7d".toList).2 =
        some (" end ".toList, ['\x7d']) := by decide +kernel
    exact .action hcut hclose (.action hcutEnd hcloseEnd (.text (by decide +kernel)))
  have hlast : ¬ Settled false a.toList true := fun h => nomatch hsettled.unique h
  have hfirst : ∀ text action, Text.cutText openingBraces b.toList = some (text, action) →
      ¬ HasLeftMarker action := by
    intro text action hcut
    have haction : Text.cutText openingBraces b.toList =
        some (['\x7b', ' '], " Param (Bool \"y\") -\x7d\x7d c".toList) := by decide +kernel
    obtain ⟨rfl, rfl⟩ := Prod.mk.inj (Option.some.inj (haction.symm.trans hcut))
    rintro ⟨rest, h, -⟩
    have hhead : " Param (Bool \"y\") -\x7d\x7d c".toList.head? = some '-' := by rw [h]; rfl
    revert hhead
    decide +kernel
  obtain ⟨s, hs⟩ : ∃ s, compile "t" a = .ok s := exists_of_isSome_toOption (by decide +kernel)
  obtain ⟨t, ht⟩ : ∃ t, compile "t" b = .ok t := exists_of_isSome_toOption (by decide +kernel)
  obtain ⟨u, hu, -, hrender⟩ := compile_append hs ht (by decide +kernel) hlast hfirst
  exact ⟨s, t, u, hs, ht, hu, hrender⟩

end QueryGateway.Template
