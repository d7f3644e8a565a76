import QueryGateway.Proofs.Template.Joining

/-!
# Templates that are rendered alike

How the texts of a template are divided into pieces does not show when it is rendered. Bodies
are compared by what they give for all lookups, and so are the suffixes that they are assembled
from: pushing a piece keeps suffixes alike.
-/

namespace QueryGateway.Template

/-- Bodies that give the same text, or the same failure, whatever the lookups are. -/
def Body.Alike (b c : Body) : Prop :=
  ∀ look, b.render look = c.render look

/-- Functions that give bodies that are alike for bodies that are. -/
def KeepsAlike (f g : Body → Body) : Prop :=
  ∀ b c, b.Alike c → (f b).Alike (g c)

/-- A text is rendered before the body behind it. -/
theorem render_text (look : Lookups) (s : List Char) (body : Body) :
    (Body.text s body).render look = (body.render look).map (String.ofList s ++ ·) := by
  rw [Body.render]
  cases body.render look <;> rfl

theorem render_textBody (look : Lookups) (s : List Char) (body : Body) :
    (textBody s body).render look = (body.render look).map (String.ofList s ++ ·) := by
  cases s with
  | nil => cases h : body.render look <;> simp [textBody, h, Except.map]
  | cons c s => exact render_text look (c :: s) body

/-- A branch is rendered as the part that its condition chooses, and what follows it. -/
theorem render_branch_eq (look : Lookups) (condition : Expression) (yes no rest : Body) :
    (Body.branch condition yes no rest).render look =
      condition.eval look >>= fun v => (if v.isTrue then yes else no).render look >>= fun s =>
        rest.render look >>= fun t => .ok (s ++ t) := by
  rw [Body.render]
  rcases condition.eval look with e | v
  · rfl
  · simp only [bind, Except.bind]
    cases v.isTrue <;> rfl

theorem keepsAlike_textBody (s : List Char) : KeepsAlike (textBody s) (textBody s) := by
  intro b c h look
  rw [render_textBody, render_textBody, h look]

/-- Two texts are rendered as one. -/
theorem keepsAlike_text (s t : List Char) :
    KeepsAlike (textBody s ∘ .text t) (textBody (s ++ t)) := by
  intro b c h look
  rw [Function.comp_apply, render_textBody, render_text, render_textBody, h look]
  cases c.render look <;> simp [Except.map, String.ofList_append, String.append_assoc]

/-- Branches between whose bodies are alike. -/
theorem keepsAlike_branch (condition : Expression) {yes yes' no no' : Body}
    (hyes : yes.Alike yes') (hno : no.Alike no') :
    KeepsAlike (.branch condition yes no) (.branch condition yes' no') := by
  intro b c h look
  simp only [Body.render, hyes look, hno look, h look]

namespace Suffix

/-- Suffixes with the same closing actions or failures, between bodies that are alike. -/
inductive Alike : Suffix → Suffix → Prop
  | whole {b c : Body} (h : b.Alike c) : Alike (.whole b) (.whole c)
  | closed {b c : Body} {k : Closer} {rest other : Suffix} (h : b.Alike c)
    (hrest : Alike rest other) : Alike (.closed b k rest) (.closed c k other)
  | failed {e : Failure} : Alike (.failed e) (.failed e)

variable {s t u : Suffix}

theorem Alike.refl (s : Suffix) : s.Alike s := by
  induction s with
  | whole b => exact .whole fun _ => rfl
  | closed b k rest ih => exact .closed (fun _ => rfl) ih
  | failed e => exact .failed

theorem Alike.symm (h : s.Alike t) : t.Alike s := by
  induction h with
  | whole h => exact .whole fun look => (h look).symm
  | closed h _ ih => exact .closed (fun look => (h look).symm) ih
  | failed => exact .failed

theorem Alike.trans (hst : s.Alike t) (htu : t.Alike u) : s.Alike u := by
  induction hst generalizing u with
  | whole h =>
    obtain ⟨h'⟩ := htu
    exact .whole fun look => (h look).trans (h' look)
  | closed h _ ih =>
    obtain _ | ⟨h', hrest⟩ := htu
    exact .closed (fun look => (h look).trans (h' look)) (ih hrest)
  | failed => exact htu

theorem Alike.extend {f g : Body → Body} (hfg : KeepsAlike f g) (h : s.Alike t) :
    (s.extend f).Alike (t.extend g) := by
  cases h with
  | whole h => exact .whole (hfg _ _ h)
  | closed h hrest => exact .closed (hfg _ _ h) hrest
  | failed => exact .failed

theorem Alike.openElse {condition : Expression} {yes yes' : Body} (hyes : yes.Alike yes')
    (h : s.Alike t) : (s.openElse condition yes).Alike (t.openElse condition yes') := by
  cases h with
  | whole _ => exact .failed
  | @closed no no' k rest other hno hrest =>
    cases k with
    | otherwise => exact .failed
    | done => exact hrest.extend (keepsAlike_branch condition hyes hno)
  | failed => exact .failed

theorem Alike.openBranch {condition : Expression} (h : s.Alike t) :
    (s.openBranch condition).Alike (t.openBranch condition) := by
  cases h with
  | whole _ => exact .failed
  | @closed yes yes' k rest other hyes hrest =>
    cases k with
    | otherwise => exact hrest.openElse hyes
    | done => exact hrest.extend (keepsAlike_branch condition hyes fun _ => rfl)
  | failed => exact .failed

/-- Pushing a piece keeps suffixes alike. -/
theorem Alike.push (item : Item) (h : s.Alike t) : (s.push item).Alike (t.push item) := by
  cases item with
  | text s => exact h.extend fun b c h look => by simp only [Body.render, h look]
  | output e => exact h.extend fun b c h look => by simp only [Body.render, h look]
  | condition e => exact h.openBranch
  | closer k => exact .closed (fun _ => rfl) h

theorem extend_textBody_nil (s : Suffix) : s.extend (textBody []) = s := by
  cases s <;> rfl

/-- Joining neighbouring texts keeps suffixes alike. -/
theorem alike_joinTexts (items : List Item) (pending : List Char) :
    ((ofItems items).extend (textBody pending)).Alike (ofItems (joinTexts pending items)) := by
  induction items generalizing pending with
  | nil =>
    rw [joinTexts, ← List.append_nil (textItems pending), ofItems_textItems_append]
    exact .refl _
  | cons item items ih =>
    have hitems : (ofItems items).Alike (ofItems (joinTexts [] items)) := by
      simpa only [extend_textBody_nil] using ih []
    have hother (hitem : ∀ s, item ≠ .text s) :
        ((ofItems (item :: items)).extend (textBody pending)).Alike
          (ofItems (joinTexts pending (item :: items))) := by
      rw [ofItems_joinTexts_cons hitem]
      exact (hitems.push item).extend (keepsAlike_textBody pending)
    cases item with
    | text s =>
      have hpush : ofItems (.text s :: items) = (ofItems items).extend (.text s) := rfl
      rw [hpush, extend_extend]
      exact ((Alike.refl _).extend (keepsAlike_text pending s)).trans (ih (pending ++ s))
    | output e => exact hother (by simp)
    | condition e => exact hother (by simp)
    | closer k => exact hother (by simp)

/-- Pieces give alike suffixes if they are the same after joining their texts. -/
theorem alike_of_joinTexts {items others : List Item}
    (hjoin : joinTexts [] items = joinTexts [] others) :
    (ofItems items).Alike (ofItems others) := by
  have hfirst := alike_joinTexts items []
  have hsecond := alike_joinTexts others []
  rw [extend_textBody_nil] at hfirst hsecond
  rw [hjoin] at hfirst
  exact hfirst.trans hsecond.symm

/-- Suffixes that are alike give bodies that are alike. -/
theorem Alike.toBody {body : Body} (h : s.Alike t) (hbody : s.toBody = .ok body) :
    ∃ other, t.toBody = .ok other ∧ other.Alike body := by
  cases h with
  | whole h =>
    obtain rfl := Except.ok.inj hbody
    exact ⟨_, rfl, fun look => (h look).symm⟩
  | closed _ _ => cases hbody
  | failed => cases hbody

end Suffix

/-- A source is compiled to what any pieces form that are the same after joining their texts. -/
theorem exists_compile_of_joinTexts {name : String} {source : List Char} {items others : List Item}
    {body : Body} (hscan : scan false source = .ok items)
    (hjoin : joinTexts [] items = joinTexts [] others) (hbody : Body.ofItems others = .ok body) :
    ∃ t, compile name (String.ofList source) = .ok t ∧ t.name = name ∧ t.body.Alike body := by
  obtain ⟨other, hother, hrender⟩ := (Suffix.alike_of_joinTexts hjoin.symm).toBody hbody
  refine ⟨⟨name, other⟩, ?_, rfl, hrender⟩
  rw [← Body.ofItems] at hother
  rw [compile, String.toList_ofList, hscan]
  simp only [bind, Except.bind, hother]

/-- The pieces and the body of a template. -/
theorem exists_scan_of_compile {name : String} {source : List Char} {t : Template}
    (ht : compile name (String.ofList source) = .ok t) :
    ∃ items, scan false source = .ok items ∧ Body.ofItems items = .ok t.body := by
  obtain ⟨items, hitems, hassembled⟩ := exists_of_bind_eq_ok ht
  obtain ⟨body, hbody, hnamed⟩ := exists_of_bind_eq_ok hassembled
  obtain rfl := Except.ok.inj hnamed
  rw [String.toList_ofList] at hitems
  exact ⟨items, hitems, hbody⟩

/-- Sources with the same joined pieces are compiled to templates that are rendered alike. -/
theorem compile_of_joinedScan {name : String} {a b : List Char} {t : Template}
    (hjoined : joinedScan a = joinedScan b) (ht : compile name (String.ofList a) = .ok t) :
    ∃ t', compile name (String.ofList b) = .ok t' ∧ ∀ look, t'.render look = t.render look := by
  obtain ⟨items, hitems, hbody⟩ := exists_scan_of_compile ht
  rw [joinedScan, hitems] at hjoined
  obtain ⟨others, hothers, hjoin⟩ := exists_of_map_eq_ok hjoined.symm
  obtain ⟨t', ht', -, hrender⟩ := exists_compile_of_joinTexts hothers hjoin hbody
  exact ⟨t', ht', hrender⟩

end QueryGateway.Template
