import QueryGateway.Proofs.Template.Lexing

/-!
# Reading back the tokens of an expression

The readers of commands take exactly the tokens of an expression, if what follows is
no further argument. Their fuel is enough for the tokens that they are given: each
expression in parentheses takes four nested calls and has two tokens besides its own.
-/

namespace QueryGateway.Template

/-- Tokens that end a list of arguments. -/
def Stops (rest : List Token) : Prop :=
  ∀ fuel, readArguments (fuel + 1) rest = .ok ([], rest)

theorem stops_nil : Stops [] := fun _ => rfl

theorem stops_closing (rest : List Token) : Stops (.closing :: rest) := fun _ => rfl

/-- An expression whose tokens are read as a command. -/
def ReadsBack (e : Expression) : Prop :=
  ∀ fuel rest, 3 * e.tokens.length ≤ fuel → Stops rest →
    readCommand fuel (e.tokens ++ rest) = .ok (e, rest)

theorem Expression.tokens_ne_nil (e : Expression) : e.tokens ≠ [] := by
  cases e <;> simp [tokens]

/-- A helper is found under its name. -/
theorem helperNamed_name (h : Helper) : helperNamed h.name = .ok h := by
  cases h <;> rfl

/-- A pipeline ends where no bar follows. -/
theorem readBars_of_no_bar {rest : List Token} (hbar : rest.head? ≠ some .bar) (fuel : Nat)
    (e : Expression) : readBars (fuel + 1) e rest = .ok (e, rest) := by
  rcases rest with _ | ⟨token, rest⟩
  · rfl
  · cases token with
    | bar => exact absurd rfl hbar
    | _ => rfl

/-- A pipeline of one command, before a closing parenthesis or the end. -/
theorem ReadsBack.pipeline {e : Expression} (he : ReadsBack e) {fuel : Nat} {rest : List Token}
    (hfuel : 3 * e.tokens.length + 1 ≤ fuel) (hstops : Stops rest)
    (hbar : rest.head? ≠ some .bar) :
    readPipeline fuel (e.tokens ++ rest) = .ok (e, rest) := by
  have hpos := List.length_pos_iff.mpr e.tokens_ne_nil
  obtain ⟨fuel, rfl⟩ : ∃ n, fuel = n + 2 := ⟨fuel - 2, by omega⟩
  rw [readPipeline, he (fuel + 1) rest (by omega) hstops]
  exact readBars_of_no_bar hbar fuel e

/-- One argument before further ones. -/
theorem ReadsBack.argument {e : Expression} (he : ReadsBack e) {fuel : Nat}
    {others : List Expression} {rest after : List Token}
    (hfuel : 3 * (e.argumentTokens e.tokens).length ≤ fuel)
    (hothers : readArguments fuel rest = .ok (others, after)) :
    readArguments (fuel + 1) (e.argumentTokens e.tokens ++ rest) = .ok (e :: others, after) := by
  have hgroup (hlength : 3 * (e.tokens.length + 2) ≤ fuel) :
      readArguments (fuel + 1) (.opening :: (e.tokens ++ .closing :: rest)) =
        .ok (e :: others, after) := by
    obtain ⟨n, rfl⟩ : ∃ n, fuel = n + 1 := ⟨fuel - 1, by omega⟩
    have hpipeline : readPipeline n (e.tokens ++ .closing :: rest) = .ok (e, .closing :: rest) :=
      he.pipeline (by omega) (stops_closing rest) (by simp)
    have hread : readGroup (n + 1) (e.tokens ++ .closing :: rest) = .ok (e, rest) := by
      rw [readGroup, hpipeline]
      rfl
    rw [readArguments, hread]
    simp only [bind, Except.bind, hothers]
  cases e with
  | text s =>
    simp only [Expression.argumentTokens, Expression.tokens, List.singleton_append, readArguments,
      bind, Except.bind, hothers]
  | _ =>
    simp only [Expression.argumentTokens, List.length_append, List.length_cons, List.length_nil,
      List.cons_append, List.append_assoc, List.nil_append] at hfuel ⊢
    exact hgroup (by omega)

/-- A helper with the arguments that make up a call of it. -/
theorem readCommand_call {h : Helper} {arguments : List Expression} {e : Expression} {fuel : Nat}
    {tokens rest : List Token} (hcall : h.call? arguments = some e)
    (harguments : readArguments fuel (tokens ++ rest) = .ok (arguments, rest)) :
    readCommand (fuel + 1) (.name h.name :: tokens ++ rest) = .ok (e, rest) := by
  rw [List.cons_append, readCommand, helperNamed_name]
  simp only [bind, Except.bind, harguments, callWith, hcall]

theorem Expression.length_argumentTokens (e : Expression) :
    0 < (e.argumentTokens e.tokens).length := by
  cases e <;> simp [argumentTokens, tokens]

/-- A helper with one argument. -/
theorem ReadsBack.unary {e call : Expression} {h : Helper} (he : ReadsBack e)
    (hcall : h.call? [e] = some call)
    (htokens : call.tokens = .name h.name :: e.argumentTokens e.tokens) : ReadsBack call := by
  intro fuel rest hfuel hstops
  have hpos := e.length_argumentTokens
  rw [htokens] at hfuel ⊢
  rw [List.length_cons] at hfuel
  obtain ⟨fuel, rfl⟩ : ∃ n, fuel = n + 3 := ⟨fuel - 3, by omega⟩
  exact readCommand_call hcall (he.argument (by omega) (hstops fuel))

/-- The tokens of every expression are read as a command. -/
theorem readsBack (e : Expression) : ReadsBack e := by
  induction e with
  | text s =>
    intro fuel rest hfuel _
    obtain ⟨fuel, rfl⟩ : ∃ n, fuel = n + 1 :=
      ⟨fuel - 1, by simp only [Expression.tokens, List.length_singleton] at hfuel; omega⟩
    rfl
  | param name ih => exact ih.unary (h := .param) rfl rfl
  | flag name ih => exact ih.unary (h := .flag) rfl rfl
  | header name ih => exact ih.unary (h := .header) rfl rfl
  | quote value ih => exact ih.unary (h := .quote) rfl rfl
  | orElse fallback value ihf ihv =>
    intro fuel rest hfuel hstops
    have hposf := fallback.length_argumentTokens
    have hposv := value.length_argumentTokens
    rw [Expression.tokens] at hfuel ⊢
    simp only [List.length_cons, List.length_append] at hfuel
    obtain ⟨fuel, rfl⟩ : ∃ n, fuel = n + 4 := ⟨fuel - 4, by omega⟩
    have hvalue : readArguments (fuel + 2) (value.argumentTokens value.tokens ++ rest) =
        .ok ([value], rest) := ihv.argument (by omega) (hstops fuel)
    have hboth := ihf.argument (by omega) hvalue
    rw [← List.append_assoc] at hboth
    exact readCommand_call (h := .orElse) rfl hboth

/-- Reading the tokens of an expression gives the expression. -/
theorem readExpression_tokens (e : Expression) : readExpression e.tokens = .ok e := by
  have hread : readPipeline (enoughFuel e.tokens) (e.tokens ++ []) = .ok (e, []) :=
    (readsBack e).pipeline (by unfold enoughFuel; omega) stops_nil (by simp)
  rw [List.append_nil] at hread
  simp [readExpression, e.tokens_ne_nil, hread]

end QueryGateway.Template
