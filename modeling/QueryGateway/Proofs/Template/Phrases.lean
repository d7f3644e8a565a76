import QueryGateway.Proofs.Template.Commands

/-!
# Phrases

A phrase is a pipeline before its helpers are looked up: commands, the helpers after bars and
arguments, nested to any depth. It has a value of its own, or a failure, that is found along its
structure. The readers give just this value for the tokens of a phrase.
-/

namespace QueryGateway.Template

/-- A name that can begin an action as a call, known or not. -/
structure CallName where
  text : String
  not_keyword : text ∉ ["if", "else", "end"]

mutual

/-- A literal, a parenthesized pipeline or a call. -/
inductive Command where
  | literal (s : String)
  | group (first : Command) (stages : Stages)
  | call (name : CallName) (arguments : Arguments)

/-- The bars of a pipeline, with the call behind each of them. -/
inductive Stages where
  | done
  | bar (name : CallName) (arguments : Arguments) (rest : Stages)

/-- The arguments of a call: literals and parenthesized pipelines. -/
inductive Arguments where
  | done
  | literal (s : String) (rest : Arguments)
  | group (first : Command) (stages : Stages) (rest : Arguments)

end

mutual

/-- The tokens of a command. -/
def Command.tokens : Command → List Token
  | .literal s => [.literal s]
  | .group first stages => .opening :: (first.tokens ++ (stages.tokens ++ [.closing]))
  | .call name arguments => .name name.text :: arguments.tokens

/-- The tokens of the bars of a pipeline. -/
def Stages.tokens : Stages → List Token
  | .done => []
  | .bar name arguments rest => .bar :: .name name.text :: (arguments.tokens ++ rest.tokens)

/-- The tokens of arguments. -/
def Arguments.tokens : Arguments → List Token
  | .done => []
  | .literal s rest => .literal s :: rest.tokens
  | .group first stages rest =>
    .opening :: (first.tokens ++ (stages.tokens ++ .closing :: rest.tokens))

end

mutual

/-- The expression of a command. -/
def Command.value : Command → Except Failure Expression
  | .literal s => .ok (.text s)
  | .group first stages => do
    let e ← first.value
    stages.value e
  | .call name arguments => do
    let helper ← helperNamed name.text
    let arguments ← arguments.value
    callWith helper arguments

/-- The expression of a pipeline, given the one before its bars. Each call takes the expression so
far as its last argument. -/
def Stages.value : Stages → Expression → Except Failure Expression
  | .done, e => .ok e
  | .bar name arguments rest, e => do
    let helper ← helperNamed name.text
    let arguments ← arguments.value
    let e ← callWith helper (arguments ++ [e])
    rest.value e

/-- The expressions of arguments. -/
def Arguments.value : Arguments → Except Failure (List Expression)
  | .done => .ok []
  | .literal s rest => do
    let others ← rest.value
    .ok (.text s :: others)
  | .group first stages rest => do
    let e ← first.value
    let e ← stages.value e
    let others ← rest.value
    .ok (e :: others)

end

/-! ## Reading phrases -/

theorem Command.tokens_ne_nil (c : Command) : c.tokens ≠ [] := by
  cases c <;> simp [tokens]

/-- A bar ends a list of arguments. -/
theorem stops_stages (s : Stages) {rest : List Token} (hrest : Stops rest) :
    Stops (s.tokens ++ rest) := by
  cases s with
  | done => exact hrest
  | bar name arguments others =>
    intro fuel
    rfl

/-- A pipeline in parentheses is read as its command and its bars are. -/
theorem readGroup_of_parts {first : Command} {stages : Stages} {fuel : Nat} {rest : List Token}
    (hfirst : readCommand fuel (first.tokens ++ (stages.tokens ++ .closing :: rest)) =
      first.value.map (·, stages.tokens ++ .closing :: rest))
    (hstages : ∀ e, readBars fuel e (stages.tokens ++ .closing :: rest) =
      (stages.value e).map (·, .closing :: rest)) :
    readGroup (fuel + 2) (first.tokens ++ (stages.tokens ++ .closing :: rest)) =
      (first.value >>= stages.value).map (·, rest) := by
  rw [readGroup, readPipeline, hfirst]
  rcases first.value with e | e
  · rfl
  · simp only [Except.map, bind, Except.bind, hstages]
    cases stages.value e <;> rfl

mutual

/-- The tokens of a command are read as its value. -/
theorem Command.read (c : Command) (fuel : Nat) {rest : List Token}
    (hfuel : 3 * c.tokens.length ≤ fuel) (hrest : Stops rest) :
    readCommand fuel (c.tokens ++ rest) = c.value.map (·, rest) := by
  match c with
  | .literal s =>
    obtain ⟨fuel, rfl⟩ : ∃ n, fuel = n + 1 :=
      ⟨fuel - 1, by simp only [Command.tokens, List.length_singleton] at hfuel; omega⟩
    rfl
  | .group first stages =>
    simp only [Command.tokens, List.length_cons, List.length_append, List.length_nil] at hfuel
    -- the parenthesis, the group and the pipeline take a call each, and there are two more tokens
    obtain ⟨fuel, rfl⟩ : ∃ n, fuel = n + 3 := ⟨fuel - 3, by omega⟩
    have hclosing := stops_closing rest
    have hfirst := first.read fuel (by omega) (stops_stages stages hclosing)
    have hstages (e : Expression) := stages.read e fuel (by omega) hclosing (by simp)
    have hgroup := readGroup_of_parts hfirst hstages
    simpa [Command.tokens, readCommand, Command.value] using hgroup
  | .call name arguments =>
    simp only [Command.tokens, List.length_cons] at hfuel
    obtain ⟨fuel, rfl⟩ : ∃ n, fuel = n + 1 := ⟨fuel - 1, by omega⟩
    have harguments := arguments.read fuel (by omega) hrest
    rw [Command.tokens, List.cons_append, readCommand, harguments, Command.value]
    rcases helperNamed name.text with e | helper
    · rfl
    · rcases arguments.value with e | values
      · rfl
      · cases callWith helper values <;> rfl

/-- The tokens of the bars of a pipeline are read as its value. -/
theorem Stages.read (s : Stages) (e : Expression) (fuel : Nat) {rest : List Token}
    (hfuel : 3 * s.tokens.length + 1 ≤ fuel) (hrest : Stops rest) (hbar : rest.head? ≠ some .bar) :
    readBars fuel e (s.tokens ++ rest) = (s.value e).map (·, rest) := by
  obtain ⟨fuel, rfl⟩ : ∃ n, fuel = n + 1 := ⟨fuel - 1, by omega⟩
  match s with
  | .done => exact readBars_of_no_bar hbar fuel e
  | .bar name arguments others =>
    simp only [Stages.tokens, List.length_cons, List.length_append] at hfuel
    have harguments := arguments.read fuel (by omega) (stops_stages others hrest)
    have hothers (e : Expression) := others.read e fuel (by omega) hrest hbar
    rw [Stages.tokens, List.cons_append, List.cons_append, List.append_assoc, readBars,
      Stages.value, harguments]
    rcases helperNamed name.text with e | helper
    · rfl
    · rcases arguments.value with e | values
      · rfl
      · simp only [bind, Except.bind, Except.map]
        rcases callWith helper (values ++ [e]) with e' | e'
        · rfl
        · exact hothers e'

/-- The tokens of arguments are read as their value. -/
theorem Arguments.read (a : Arguments) (fuel : Nat) {rest : List Token}
    (hfuel : 3 * a.tokens.length + 1 ≤ fuel) (hrest : Stops rest) :
    readArguments fuel (a.tokens ++ rest) = a.value.map (·, rest) := by
  obtain ⟨fuel, rfl⟩ : ∃ n, fuel = n + 1 := ⟨fuel - 1, by omega⟩
  match a with
  | .done => exact hrest fuel
  | .literal s others =>
    simp only [Arguments.tokens, List.length_cons] at hfuel
    have hothers := others.read fuel (by omega) hrest
    rw [Arguments.tokens, List.cons_append, readArguments, hothers, Arguments.value]
    cases others.value <;> rfl
  | .group first stages others =>
    simp only [Arguments.tokens, List.length_cons, List.length_append] at hfuel
    obtain ⟨fuel, rfl⟩ : ∃ n, fuel = n + 2 := ⟨fuel - 2, by omega⟩
    have hclosing := stops_closing (others.tokens ++ rest)
    have hfirst := first.read fuel (by omega) (stops_stages stages hclosing)
    have hstages (e : Expression) := stages.read e fuel (by omega) hclosing (by simp)
    have hgroup := readGroup_of_parts hfirst hstages
    have hothers := others.read (fuel + 2) (by omega) hrest
    have htokens : (Arguments.group first stages others).tokens ++ rest =
        .opening :: (first.tokens ++ (stages.tokens ++ .closing :: (others.tokens ++ rest))) := by
      simp [Arguments.tokens]
    rw [htokens, readArguments, hgroup, Arguments.value]
    rcases first.value with e | e
    · rfl
    · simp only [bind, Except.bind]
      rcases stages.value e with e | e
      · rfl
      · simp only [Except.map, hothers]
        cases others.value <;> rfl

end

/-- The tokens of a pipeline are read as its value. -/
theorem readExpression_phrase (first : Command) (stages : Stages) :
    readExpression (first.tokens ++ stages.tokens) = first.value >>= stages.value := by
  have hlength : (first.tokens ++ stages.tokens).length =
      first.tokens.length + stages.tokens.length := List.length_append
  let fuel := 3 * (first.tokens ++ stages.tokens).length + 2
  have henough : enoughFuel (first.tokens ++ stages.tokens) = fuel + 1 := rfl
  have hfirst := first.read fuel (by omega) (stops_stages stages stops_nil)
  have hstages (e : Expression) := stages.read e fuel (by omega) stops_nil (by simp)
  simp only [List.append_nil] at hfirst hstages
  have hne : first.tokens ++ stages.tokens ≠ [] := by simp [first.tokens_ne_nil]
  rw [readExpression, if_neg (by simpa using hne), henough, readPipeline, hfirst]
  rcases first.value with e | e
  · rfl
  · simp only [Except.map, bind, Except.bind, hstages]
    cases stages.value e <;> rfl

/-- A pipeline asks for its value as an output. -/
theorem actionOfTokens_phrase (first : Command) (stages : Stages) :
    actionOfTokens (first.tokens ++ stages.tokens) =
      (first.value >>= stages.value).map .output := by
  rw [← readExpression_phrase]
  cases first with
  | literal s => rfl
  | group first others => rfl
  | call name arguments =>
    have hname := name.not_keyword
    simp only [List.mem_cons, List.not_mem_nil, or_false, not_or] at hname
    simp [Command.tokens, actionOfTokens, hname]

end QueryGateway.Template
