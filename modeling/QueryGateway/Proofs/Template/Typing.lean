import Mathlib.Data.List.Basic
import QueryGateway.Proofs.Template.Rendering

/-!
# Failures of types

A helper that needs a text fails if it is given a truth value, and truth values come from calls of
one helper only. So whether an expression has a value can be read off it, whatever the lookups are:
it fails exactly if such a call is a direct argument of another call in it. A template fails
exactly if an expression of this kind is an output or a condition on the path that is rendered.
The arguments of a call are read by their positions, and there is one at each of them.
-/

namespace QueryGateway.Template

/-! ## Calls -/

namespace Expression

/-- The helper and the arguments of a call. -/
def call? : Expression → Option (Helper × List Expression)
  | text _ => none
  | param name => some (.param, [name])
  | flag name => some (.flag, [name])
  | header name => some (.header, [name])
  | orElse fallback value => some (.orElse, [fallback, value])
  | quote value => some (.quote, [value])

/-- A call has just the helper and the arguments that it is made of. -/
theorem call?_eq_some_iff {e : Expression} {h : Helper} {arguments : List Expression} :
    e.call? = some (h, arguments) ↔ h.call? arguments = some e := by
  constructor
  · intro hcall
    cases e <;> simp only [call?, Option.some.injEq, Prod.mk.injEq, reduceCtorEq] at hcall <;>
      obtain ⟨rfl, rfl⟩ := hcall <;> rfl
  · intro hcall
    cases h <;> rcases arguments with _ | ⟨a, _ | ⟨b, _ | ⟨c, rest⟩⟩⟩ <;>
      simp only [Helper.call?, Option.some.injEq, reduceCtorEq] at hcall <;> subst hcall <;> rfl

/-- Only one kind of expressions calls the helper for truth values. -/
theorem eq_flag_iff {e : Expression} {h : Helper} {arguments : List Expression}
    (hcall : e.call? = some (h, arguments)) : h = .flag ↔ ∃ name, e = .flag name := by
  cases e <;> simp only [call?, Option.some.injEq, Prod.mk.injEq, reduceCtorEq] at hcall <;>
    obtain ⟨rfl, -⟩ := hcall <;> simp

/-- A property holds of all expressions if it holds of texts, and of calls whenever it holds of
their arguments. -/
@[elab_as_elim]
theorem call_induction {motive : Expression → Prop} (text : ∀ s, motive (.text s))
    (call : ∀ {e h arguments}, e.call? = some (h, arguments) → (∀ a ∈ arguments, motive a) →
      motive e)
    (e : Expression) : motive e := by
  induction e with
  | text s => exact text s
  | param name ih | flag name ih | header name ih | quote value ih =>
    exact call rfl (by simpa using ih)
  | orElse fallback value ihf ihv => exact call rfl (by simpa using ⟨ihf, ihv⟩)

/-- An expression that occurs in another one, at any depth. -/
inductive Occurs (inner : Expression) : Expression → Prop
  | self : Occurs inner inner
  | argument {e a : Expression} {h : Helper} {arguments : List Expression}
    (hcall : e.call? = some (h, arguments)) (ha : a ∈ arguments) (hinner : Occurs inner a) :
    Occurs inner e

/-- A call of a helper one of whose arguments is a call for a truth value. -/
def TakesTruth (h : Helper) (e : Expression) : Prop :=
  ∃ arguments name, e.call? = some (h, arguments) ∧ .flag name ∈ arguments

/-- An expression in which a call for a truth value is a direct argument. -/
def Mistyped (e : Expression) : Prop :=
  ∃ inner h, Occurs inner e ∧ TakesTruth h inner

end Expression

/-- A call is read exactly if there are as many arguments as its helper takes. -/
theorem callWith_eq_ok_iff {h : Helper} {arguments : List Expression} {e : Expression} :
    callWith h arguments = .ok e ↔
      arguments.length = h.arity ∧ e.call? = some (h, arguments) := by
  have harity := h.call?_isSome_iff arguments
  rw [Expression.call?_eq_some_iff]
  unfold callWith
  cases hcall : h.call? arguments with
  | none => simp
  | some call =>
    rw [hcall] at harity
    have hlength := harity.mp rfl
    simp [hlength]

/-! ## Arguments by position -/

/-- Why a helper gives no value: the type of an argument, or an argument that is missing. -/
inductive Halt where
  | type (e : TypeFailure)
  | missing (position : Nat)

namespace Helper

/-- The text at a position of the arguments. -/
def textAt (h : Helper) (values : List Value) (position : Nat) : Except Halt String :=
  match values[position]? with
  | some value => (value.textFor h).mapError .type
  | none => .error (.missing position)

/-- The value of a helper, which reads its arguments by their positions. -/
def apply (look : Lookups) (values : List Value) : Helper → Except Halt Value
  | param => do .ok (.text (look.param (← textAt .param values 0)))
  | flag => do .ok (.truth (look.flag (← textAt .flag values 0)))
  | header => do .ok (.text (look.header (← textAt .header values 0)))
  | orElse => do
    .ok (.text (Template.orElse (← textAt .orElse values 0) (← textAt .orElse values 1)))
  | quote => do .ok (.text (Template.quote (← textAt .quote values 0)))

variable (look : Lookups) {h : Helper} {values : List Value}

/-- With enough arguments, a helper fails exactly if one of them is a truth value. -/
theorem apply_eq_error_iff (hlength : values.length = h.arity) (e : Halt) :
    h.apply look values = .error e ↔ e = .type ⟨h⟩ ∧ ∃ b, .truth b ∈ values := by
  cases h with
  | orElse =>
    obtain ⟨v, w, rfl⟩ := List.length_eq_two.mp hlength
    cases v <;> cases w <;>
      simp [apply, textAt, Value.textFor, Except.mapError, bind, Except.bind, eq_comm]
  | _ =>
    obtain ⟨v, rfl⟩ := List.length_eq_one_iff.mp hlength
    cases v <;> simp [apply, textAt, Value.textFor, Except.mapError, bind, Except.bind, eq_comm]

/-- Only one helper gives truth values, and gives no others. -/
theorem apply_isTruth {v : Value} (hvalue : h.apply look values = .ok v) :
    (∃ b, v = .truth b) ↔ h = .flag := by
  cases h <;> simp only [apply] at hvalue
  case orElse =>
    obtain ⟨s, -, hvalue⟩ := exists_of_bind_eq_ok hvalue
    obtain ⟨t, -, hvalue⟩ := exists_of_bind_eq_ok hvalue
    simp [← Except.ok.inj hvalue]
  all_goals
    obtain ⟨s, -, hvalue⟩ := exists_of_bind_eq_ok hvalue
    simp [← Except.ok.inj hvalue]

end Helper

/-! ## Values of expressions -/

section

variable (look : Lookups) {e : Expression} {h : Helper} {arguments : List Expression}

/-- The value of a call is that of its helper at the values of its arguments, which are found in
order. -/
theorem eval_of_call (hcall : e.call? = some (h, arguments)) :
    (e.eval look).mapError Halt.type =
      (arguments.mapM (Expression.eval look)).mapError Halt.type >>=
        fun values => h.apply look values := by
  cases e with
  | text s => cases hcall
  | orElse fallback value =>
    obtain ⟨rfl, rfl⟩ := Prod.mk.inj (Option.some.inj hcall)
    rw [Expression.eval, List.mapM_cons, List.mapM_cons, List.mapM_nil]
    rcases fallback.eval look with f | a
    · rfl
    · rcases value.eval look with f | b
      · rfl
      · cases a <;> cases b <;> rfl
  | param name | flag name | header name | quote name =>
    obtain ⟨rfl, rfl⟩ := Prod.mk.inj (Option.some.inj hcall)
    rw [Expression.eval, List.mapM_cons, List.mapM_nil]
    rcases name.eval look with f | v
    · rfl
    · cases v <;> rfl

/-- What a call needs to have a value: values of its arguments at which its helper has one. -/
theorem exists_values_of_eval {v : Value} (hcall : e.call? = some (h, arguments))
    (hvalue : e.eval look = .ok v) :
    ∃ values, arguments.mapM (Expression.eval look) = .ok values ∧
      h.apply look values = .ok v := by
  have heval := eval_of_call look hcall
  rw [hvalue] at heval
  obtain ⟨values, hvalues, happly⟩ := exists_of_bind_eq_ok heval.symm
  exact ⟨values, eq_ok_of_mapError hvalues, happly⟩

/-- There are as many values as arguments, and as many of these as the helper takes. -/
theorem length_values (hcall : e.call? = some (h, arguments)) {values : List Value}
    (hvalues : arguments.mapM (Expression.eval look) = .ok values) :
    values.length = h.arity := by
  rw [(exists_of_mem_mapM hvalues).1, ← h.call?_isSome_iff, Expression.call?_eq_some_iff.mp hcall]
  rfl

/-- A value is a truth value exactly if the expression is a call for one. -/
theorem isTruth_of_eval {v : Value} (hvalue : e.eval look = .ok v) :
    (∃ b, v = .truth b) ↔ ∃ name, e = .flag name := by
  cases hcall : e.call? with
  | none =>
    obtain ⟨s, rfl⟩ : ∃ s, e = .text s := by
      cases e <;> simp [Expression.call?] at hcall ⊢
    simp [← Except.ok.inj hvalue]
  | some call =>
    obtain ⟨h, arguments⟩ := call
    obtain ⟨values, -, happly⟩ := exists_values_of_eval look hcall hvalue
    rw [Helper.apply_isTruth look happly, Expression.eq_flag_iff hcall]

/-- A call fails if one of its arguments does. -/
theorem exists_error_of_argument {a : Expression} (hcall : e.call? = some (h, arguments))
    (ha : a ∈ arguments) (hfails : ∃ f, a.eval look = .error f) :
    ∃ f, e.eval look = .error f := by
  cases hvalue : e.eval look with
  | error f => exact ⟨f, rfl⟩
  | ok v =>
    obtain ⟨f, hf⟩ := hfails
    obtain ⟨values, hvalues, -⟩ := exists_values_of_eval look hcall hvalue
    obtain ⟨w, -, hw⟩ := exists_of_mem_of_mapM hvalues a ha
    rw [hf] at hw
    cases hw

/-- A call fails if one of its arguments is a call for a truth value. -/
theorem exists_error_of_takesTruth (htakes : e.TakesTruth h) : ∃ f, e.eval look = .error f := by
  obtain ⟨arguments, name, hcall, hmem⟩ := htakes
  cases hvalue : e.eval look with
  | error f => exact ⟨f, rfl⟩
  | ok v =>
    obtain ⟨values, hvalues, happly⟩ := exists_values_of_eval look hcall hvalue
    obtain ⟨w, hw, heval⟩ := exists_of_mem_of_mapM hvalues _ hmem
    obtain ⟨b, rfl⟩ := (isTruth_of_eval look heval).mpr ⟨name, rfl⟩
    have hfails := (Helper.apply_eq_error_iff look (length_values look hcall hvalues)
      (.type ⟨h⟩)).mpr ⟨rfl, b, hw⟩
    rw [happly] at hfails
    cases hfails

/-- A failure is that of a helper which is given a truth value somewhere in the expression. -/
theorem exists_takesTruth_of_eval {f : TypeFailure} (hfails : e.eval look = .error f) :
    ∃ inner, Expression.Occurs inner e ∧ inner.TakesTruth f.helper := by
  induction e using Expression.call_induction with
  | text s => cases hfails
  | @call e h arguments hcall ih =>
    have heval := eval_of_call look hcall
    rw [hfails] at heval
    cases hvalues : arguments.mapM (Expression.eval look) with
    | error g =>
      rw [hvalues] at heval
      obtain rfl : f = g := Halt.type.inj (Except.error.inj heval)
      obtain ⟨a, ha, hfailsa⟩ := exists_of_mapM_eq_error hvalues
      obtain ⟨inner, hinner, htakes⟩ := ih a ha hfailsa
      exact ⟨inner, .argument hcall ha hinner, htakes⟩
    | ok values =>
      rw [hvalues] at heval
      obtain ⟨htype, b, hb⟩ := (Helper.apply_eq_error_iff look
        (length_values look hcall hvalues) (.type f)).mp heval.symm
      obtain rfl := Halt.type.inj htype
      obtain ⟨a, ha, hvalue⟩ := (exists_of_mem_mapM hvalues).2 _ hb
      obtain ⟨name, rfl⟩ := (isTruth_of_eval look hvalue).mp ⟨b, rfl⟩
      exact ⟨e, .self, arguments, name, hcall, ha⟩

/-- An expression fails exactly if it is mistyped. -/
theorem eval_fails_iff_mistyped : (∃ f, e.eval look = .error f) ↔ e.Mistyped := by
  constructor
  · rintro ⟨f, hfails⟩
    obtain ⟨inner, hinner, htakes⟩ := exists_takesTruth_of_eval look hfails
    exact ⟨inner, f.helper, hinner, htakes⟩
  · rintro ⟨inner, h, hinner, htakes⟩
    induction hinner with
    | self => exact exists_error_of_takesTruth look htakes
    | argument hcall ha _ ih => exact exists_error_of_argument look hcall ha ih

end

/-! ## The path that is rendered -/

/-- An expression is an output or a condition of a body, outside of all parts of branches that
their conditions do not choose. -/
inductive Body.OnPath (look : Lookups) (e : Expression) : Body → Prop
  | output {rest : Body} : OnPath look e (.output e rest)
  | condition {yes no rest : Body} : OnPath look e (.branch e yes no rest)
  | chosen {condition : Expression} {value : Value} {yes no rest : Body}
    (hcondition : condition.eval look = .ok value)
    (h : OnPath look e (if value.isTrue then yes else no)) :
    OnPath look e (.branch condition yes no rest)
  | afterText {s : List Char} {rest : Body} (h : OnPath look e rest) :
    OnPath look e (.text s rest)
  | afterOutput {other : Expression} {rest : Body} (h : OnPath look e rest) :
    OnPath look e (.output other rest)
  | afterBranch {condition : Expression} {yes no rest : Body} (h : OnPath look e rest) :
    OnPath look e (.branch condition yes no rest)

/-- A body fails with the failure of an expression on its path. -/
theorem exists_onPath_of_render {look : Lookups} {b : Body} {f : TypeFailure}
    (hfails : b.render look = .error f) : ∃ e, b.OnPath look e ∧ e.eval look = .error f := by
  induction b with
  | nothing => cases hfails
  | text s rest ih =>
    rw [Body.render, bind_eq_error_iff] at hfails
    obtain hrest | ⟨_, _, hok⟩ := hfails
    · obtain ⟨e, he, hfail⟩ := ih hrest
      exact ⟨e, .afterText he, hfail⟩
    · cases hok
  | output e rest ih =>
    rw [Body.render, bind_eq_error_iff] at hfails
    obtain heval | ⟨v, -, hfails⟩ := hfails
    · exact ⟨e, .output, heval⟩
    · obtain hrest | ⟨_, _, hok⟩ := bind_eq_error_iff.mp hfails
      · obtain ⟨e', he', hfail⟩ := ih hrest
        exact ⟨e', .afterOutput he', hfail⟩
      · cases hok
  | branch condition yes no rest ihy ihn ihr =>
    rw [render_branch_eq, bind_eq_error_iff] at hfails
    obtain heval | ⟨v, heval, hfails⟩ := hfails
    · exact ⟨condition, .condition, heval⟩
    · obtain hchosen | ⟨_, -, hfails⟩ := bind_eq_error_iff.mp hfails
      · cases htrue : v.isTrue with
        | true =>
          rw [htrue] at hchosen
          obtain ⟨e, he, hfail⟩ := ihy hchosen
          exact ⟨e, .chosen heval (by rwa [htrue]), hfail⟩
        | false =>
          rw [htrue] at hchosen
          obtain ⟨e, he, hfail⟩ := ihn hchosen
          exact ⟨e, .chosen heval (by rwa [htrue]), hfail⟩
      · obtain hrest | ⟨_, _, hok⟩ := bind_eq_error_iff.mp hfails
        · obtain ⟨e, he, hfail⟩ := ihr hrest
          exact ⟨e, .afterBranch he, hfail⟩
        · cases hok

/-- All expressions on the path of a body that is rendered have values. -/
theorem exists_value_of_onPath {look : Lookups} {e : Expression} {b : Body} {s : String}
    (he : b.OnPath look e) (hrender : b.render look = .ok s) : ∃ v, e.eval look = .ok v := by
  induction he generalizing s with
  | output =>
    obtain ⟨v, heval, -⟩ := exists_of_bind_eq_ok hrender
    exact ⟨v, heval⟩
  | condition =>
    obtain ⟨v, heval, -⟩ := exists_of_bind_eq_ok hrender
    exact ⟨v, heval⟩
  | chosen hcondition _ ih =>
    rw [render_branch_eq] at hrender
    obtain ⟨v, heval, hbranch⟩ := exists_of_bind_eq_ok hrender
    obtain rfl := Except.ok.inj (hcondition.symm.trans heval)
    obtain ⟨t, hchosen, -⟩ := exists_of_bind_eq_ok hbranch
    exact ih hchosen
  | afterText _ ih =>
    obtain ⟨t, hrest, -⟩ := exists_of_bind_eq_ok hrender
    exact ih hrest
  | afterOutput _ ih =>
    obtain ⟨v, -, hbehind⟩ := exists_of_bind_eq_ok hrender
    obtain ⟨t, hrest, -⟩ := exists_of_bind_eq_ok hbehind
    exact ih hrest
  | afterBranch _ ih =>
    rw [render_branch_eq] at hrender
    obtain ⟨v, -, hbranch⟩ := exists_of_bind_eq_ok hrender
    obtain ⟨t, -, hbehind⟩ := exists_of_bind_eq_ok hbranch
    obtain ⟨u, hrest, -⟩ := exists_of_bind_eq_ok hbehind
    exact ih hrest

/-- How expressions and a template fail, and how the arguments of calls are read. -/
structure FailsByType (t : Template) (look : Lookups) : Prop where
  /-- An expression fails exactly if a call for a truth value is a direct argument in it. -/
  expression : ∀ e : Expression, (∃ f, e.eval look = .error f) ↔ e.Mistyped
  /-- The template fails exactly if such an expression is on the path that is rendered. -/
  template : (∃ f, t.render look = .error f) ↔ ∃ e, t.body.OnPath look e ∧ e.Mistyped
  /-- The failure names the helper that is given the truth value. -/
  helper : ∀ f, t.render look = .error f →
    ∃ e inner, t.body.OnPath look e ∧ Expression.Occurs inner e ∧ inner.TakesTruth f.helper
  /-- Calls are read with as many arguments as their helpers take. -/
  arity : ∀ h arguments e, callWith h arguments = .ok e ↔
    arguments.length = h.arity ∧ e.call? = some (h, arguments)
  /-- A call is evaluated by its helper, which finds the values of its arguments by position. -/
  call : ∀ (e : Expression) h arguments, e.call? = some (h, arguments) →
    (e.eval look).mapError Halt.type =
      (arguments.mapM (Expression.eval look)).mapError Halt.type >>=
        fun values => h.apply look values
  /-- There is an argument at each position that is read. -/
  position : ∀ (e : Expression) h arguments values, e.call? = some (h, arguments) →
    arguments.mapM (Expression.eval look) = .ok values →
    ∀ position, h.apply look values ≠ .error (.missing position)

/-- **Failures of types.** Whatever the template and the lookups are, only types make rendering
fail, and only on the path that is rendered. -/
theorem fails_by_type (t : Template) (look : Lookups) : FailsByType t look where
  expression e := eval_fails_iff_mistyped look
  template := by
    constructor
    · rintro ⟨f, hfails⟩
      obtain ⟨e, he, hfail⟩ := exists_onPath_of_render hfails
      exact ⟨e, he, (eval_fails_iff_mistyped look).mp ⟨f, hfail⟩⟩
    · rintro ⟨e, he, hmistyped⟩
      obtain ⟨g, hfail⟩ := (eval_fails_iff_mistyped look).mpr hmistyped
      cases hrender : t.render look with
      | error f => exact ⟨f, rfl⟩
      | ok s =>
        obtain ⟨v, hvalue⟩ := exists_value_of_onPath he hrender
        rw [hfail] at hvalue
        cases hvalue
  helper f hfails := by
    obtain ⟨e, he, hfail⟩ := exists_onPath_of_render hfails
    obtain ⟨inner, hinner, htakes⟩ := exists_takesTruth_of_eval look hfail
    exact ⟨e, inner, he, hinner, htakes⟩
  arity h arguments e := callWith_eq_ok_iff
  call e h arguments hcall := eval_of_call look hcall
  position e h arguments values hcall hvalues position hmissing := by
    have hlength := length_values look hcall hvalues
    have htype := ((Helper.apply_eq_error_iff look hlength _).mp hmissing).1
    cases htype

end QueryGateway.Template
