import QueryGateway.Proofs.Calculation
import QueryGateway.Proofs.Template.Assembly
import QueryGateway.Template.Basic

/-!
# The round trip of templates

A printed outline is a template, and rendering this template gives the value of the
outline. Rendering fails exactly if an expression that is reached has no value.
-/

namespace QueryGateway.Template

/-- Two texts one after the other. -/
theorem toOption_append {ε : Type} (first rest : Except ε String) :
    (first >>= fun s => rest >>= fun t => Except.ok (s ++ t)).toOption =
      Outline.joined first.toOption rest.toOption := by
  cases first <;> cases rest <;> rfl

variable (look : Lookups)

/-! ## Values -/

/-- A helper that needs a text gets one if its argument is one. -/
theorem toOption_textFor (h : Helper) (v : Value) :
    (v.textFor h).toOption = match v with
      | .text s => some s
      | .truth _ => none := by
  cases v <;> rfl

/-- Evaluation gives the value of an expression. -/
theorem toOption_eval (e : Expression) : (e.eval look).toOption = e.value? look := by
  induction e with
  | text s => rfl
  | param name ih | flag name ih | header name ih =>
    simp only [Expression.eval, Expression.value?, toOption_bind, ih, toOption_textFor]
    rcases name.value? look with _ | _ | _ <;> rfl
  | orElse fallback value ihf ihv =>
    simp only [Expression.eval, Expression.value?, toOption_bind, ihf, ihv, toOption_textFor]
    rcases fallback.value? look with _ | a | _ <;> rcases value.value? look with _ | b | _ <;>
      simp [orElse]
  | quote value ih =>
    simp only [Expression.eval, Expression.value?, toOption_bind, ih, toOption_textFor]
    rcases value.value? look with _ | s | _ <;> simp [quote]

/-- An output writes the text of a value. -/
theorem toText_eq_written (v : Value) : v.toText = Outline.written v := by
  cases v with
  | text s => rfl
  | truth b => cases b <;> rfl

/-- A branch is selected by the truth of a value. -/
theorem isTrue_eq_selects (v : Value) : v.isTrue = Outline.selects v := by
  cases v with
  | text s => rw [Bool.eq_iff_iff]; simp [Value.isTrue, Outline.selects]
  | truth b => rfl

/-! ## Bodies -/

theorem toOption_render_text (s : List Char) (rest : Body) :
    ((Body.text s rest).render look).toOption =
      Outline.joined (some (String.ofList s)) (rest.render look).toOption :=
  toOption_append (.ok (String.ofList s)) (rest.render look)

theorem toOption_render_output (e : Expression) (rest : Body) :
    ((Body.output e rest).render look).toOption =
      Outline.joined ((e.value? look).map Outline.written) (rest.render look).toOption := by
  rw [Body.render, toOption_bind, toOption_eval]
  rcases e.value? look with _ | v
  · rfl
  · rw [Option.map_some, ← toText_eq_written]
    exact toOption_append (.ok v.toText) (rest.render look)

theorem toOption_render_branch (condition : Expression) (yes no rest : Body) :
    ((Body.branch condition yes no rest).render look).toOption =
      Outline.joined
        (Outline.chosen (condition.value? look) (yes.render look).toOption
          (no.render look).toOption)
        (rest.render look).toOption := by
  rw [Body.render, toOption_bind, toOption_eval]
  rcases condition.value? look with _ | v
  · rfl
  · rw [Outline.chosen, Option.bind_some, Option.bind_some, ← isTrue_eq_selects]
    cases v.isTrue with
    | true => exact toOption_append (yes.render look) (rest.render look)
    | false => exact toOption_append (no.render look) (rest.render look)

/-! ## Outlines -/

theorem joined_assoc (s t u : Option String) :
    Outline.joined (Outline.joined s t) u = Outline.joined s (Outline.joined t u) := by
  rcases s with _ | s <;> rcases t with _ | t <;> rcases u with _ | u <;>
    simp [Outline.joined, String.append_assoc]

@[simp] theorem empty_joined (s : Option String) : Outline.joined (some "") s = s := by
  cases s <;> simp [Outline.joined]

@[simp] theorem joined_empty (s : Option String) : Outline.joined s (some "") = s := by
  cases s <;> simp [Outline.joined]

theorem toOption_render_textBody (s : List Char) (body : Body) :
    ((textBody s body).render look).toOption =
      Outline.joined (some (String.ofList s)) (body.render look).toOption := by
  cases s with
  | nil => exact (empty_joined _).symm
  | cons c s => exact toOption_render_text look (c :: s) body

/-- The body of an outline gives its value between a text and the rest. -/
theorem toOption_render_graft (o : Outline) (pending : List Char) (body : Body) :
    ((o.graft pending body).render look).toOption =
      Outline.joined (some (String.ofList pending))
        (Outline.joined (o.value? look) (body.render look).toOption) := by
  induction o generalizing pending body with
  | done => rw [Outline.graft, Outline.value?, toOption_render_textBody, empty_joined]
  | text s rest ih =>
    rw [Outline.graft, Outline.value?, ih, String.ofList_append, ← joined_assoc, ← joined_assoc,
      ← joined_assoc]
    rfl
  | output e rest ih =>
    rw [Outline.graft, Outline.value?, toOption_render_textBody, toOption_render_output, ih,
      String.ofList_nil, empty_joined, ← joined_assoc _ (rest.value? look)]
  | branch condition yes rest ihy ihr =>
    have hyes := ihy [] .nothing
    rw [Outline.graft, Outline.value?, toOption_render_textBody, toOption_render_branch, hyes, ihr]
    simp [Body.render, joined_assoc]
  | branchElse condition yes no rest ihy ihn ihr =>
    have hyes := ihy [] .nothing
    have hno := ihn [] .nothing
    rw [Outline.graft, Outline.value?, toOption_render_textBody, toOption_render_branch, hyes, hno,
      ihr]
    simp [Body.render, joined_assoc]

/-- Compiling a printed outline succeeds, and whatever the lookups are, rendering gives
the value of the outline, and fails if it has none. -/
theorem compile_print (name : String) (o : Outline) :
    ∃ t, compile name (String.ofList o.print) = .ok t ∧
      ∀ look, (t.render look).toOption = o.value? look := by
  refine ⟨⟨name, o.graft [] .nothing⟩, ?_, fun look => ?_⟩
  · rw [compile, String.toList_ofList, o.scan_print]
    simp only [bind, Except.bind, o.ofItems_items]
  · rw [render, toOption_render_graft]
    simp [Body.render]

example :
    String.ofList (Outline.print (.branch (.flag (.text "a"))
      (.output (.orElse (.text "\"\x7d\x7d") (.param (.text "b"))) .done) .done)) =
    "\x7b\x7b if Bool \"a\" \x7d\x7d" ++
      "\x7b\x7b OrElse \"\\\"\x7d\x7d\" (Param \"b\") \x7d\x7d\x7b\x7b end \x7d\x7d" := by
  decide

end QueryGateway.Template
