import QueryGateway.Proofs.Template.Markers
import QueryGateway.Proofs.Template.Phrases

/-!
# Pipelines as nested calls

A call behind a bar takes what stands before it as its last argument. So a pipeline asks for the
same expression as its last call with the rest of the pipeline in parentheses, and so on down to
its first command: wherever the action stands, both spellings are compiled to the same template.
-/

namespace QueryGateway.Template

/-- Arguments with a command in parentheses behind them. -/
def Arguments.concat (c : Command) : Arguments → Arguments
  | .done => .group c .done .done
  | .literal s rest => .literal s (rest.concat c)
  | .group first stages rest => .group first stages (rest.concat c)

/-- The nested calls that a pipeline stands for, given what stands before its bars. -/
def Stages.nest (c : Command) : Stages → Command
  | .done => c
  | .bar name arguments rest => rest.nest (.call name (arguments.concat c))

/-! ## The expression of nested calls -/

/-- A command behind arguments gives their last expression. -/
theorem toOption_concat (c : Command) : (a : Arguments) →
    (a.concat c).value.toOption =
      a.value.toOption.bind fun front => c.value.toOption.map fun e => front ++ [e]
  | .done => by
    simp only [Arguments.concat, Arguments.value, Stages.value, toOption_bind, toOption_ok]
    cases c.value.toOption <;> rfl
  | .literal s rest => by
    simp only [Arguments.concat, Arguments.value, toOption_bind, toOption_ok,
      toOption_concat c rest]
    cases rest.value.toOption <;> cases c.value.toOption <;> rfl
  | .group first stages rest => by
    simp only [Arguments.concat, Arguments.value, toOption_bind, toOption_ok,
      toOption_concat c rest]
    cases first.value.toOption with
    | none => rfl
    | some e =>
      cases h : (stages.value e).toOption <;> cases rest.value.toOption <;>
        cases c.value.toOption <;> simp [h]

/-- Nested calls ask for the expression of the pipeline, or both ask for none. -/
theorem toOption_nest (c : Command) : (s : Stages) →
    (s.nest c).value.toOption = (c.value >>= s.value).toOption
  | .done => by
    simp only [Stages.nest, toOption_bind, Stages.value, toOption_ok]
    cases c.value.toOption <;> rfl
  | .bar name arguments rest => by
    rw [Stages.nest, toOption_nest (.call name (arguments.concat c)) rest]
    simp only [Command.value, Stages.value, toOption_bind, toOption_concat]
    -- the order in which the parts are calculated does not matter
    cases (helperNamed name.text).toOption <;> cases arguments.value.toOption <;>
      cases c.value.toOption <;> rfl

/-! ## Actions that spell phrases -/

/-- A text that spells some tokens between the braces of an action with or without markers. -/
structure Spells (left : Bool) (body : List Char) (right : Bool) (tokens : List Token) : Prop where
  reads : tokenize (Text.trim body) = .ok tokens
  left_blank : left = true → startsBlank body = true
  right_blank : right = true → endsBlank body = true

section

variable {left right : Bool} {body : List Char}

theorem Spells.markable {tokens : List Token} (h : Spells left body right tokens) :
    Markable left body right where
  left_blank := h.left_blank
  right_blank := h.right_blank
  no_hyphen_first := head?_ne_of_trim (by decide) (lexemes_of_tokenize h.reads).no_hyphen.1
  no_hyphen_last := getLast?_ne_of_trim (by decide) (lexemes_of_tokenize h.reads).no_hyphen.2

/-- The action of a pipeline is an output of its expression. -/
theorem Spells.scan_phrase {first : Command} {stages : Stages}
    (h : Spells left body right (first.tokens ++ stages.tokens)) {text : List Char}
    (htext : Inert text) (front : Bool) (rest : List Char) :
    scan front (text ++ (printMarked left body right ++ rest)) =
      (first.value >>= stages.value) >>= fun e => (scan right rest).map fun items =>
        textItems (trimEnds front left text) ++ .output e :: items := by
  have hbody : Enclosed body := enclosed_of_trim (lexemes_of_tokenize h.reads).enclosed
  rw [scan_printMarked htext h.markable hbody, readAction_eq_of_tokens h.reads,
    actionOfTokens_phrase]
  rcases first.value >>= stages.value with e | e
  · rfl
  · cases scan right rest <;> simp [bind, Except.bind, Except.map]

/-- The pieces behind a text are those of nested calls as well. -/
theorem toOption_scan_nest {first : Command} {stages : Stages} {p q : List Char}
    (hp : Spells left p right (first.tokens ++ stages.tokens))
    (hq : Spells left q right (stages.nest first).tokens) {text : List Char} (htext : Inert text)
    (front : Bool) (rest : List Char) :
    (scan front (text ++ (printMarked left p right ++ rest))).toOption =
      (scan front (text ++ (printMarked left q right ++ rest))).toOption := by
  have hnested : Spells left q right ((stages.nest first).tokens ++ Stages.done.tokens) := by
    simpa [Stages.tokens] using hq
  have hdone (x : Except Failure Expression) : x >>= Stages.done.value = x := by cases x <;> rfl
  simp only [hp.scan_phrase htext, hnested.scan_phrase htext, hdone, toOption_bind, toOption_nest]

end

/-! ## Templates -/

/-- Sources with the same pieces, if they have any, are compiled to the same template. -/
theorem compile_eq_ok_iff_of_scan {name : String} {a b : List Char}
    (hscan : (scan false a).toOption = (scan false b).toOption) (t : Template) :
    compile name (String.ofList a) = .ok t ↔ compile name (String.ofList b) = .ok t := by
  rw [← toOption_eq_some_iff, ← toOption_eq_some_iff, compile, compile, toOption_bind,
    toOption_bind, String.toList_ofList, String.toList_ofList, hscan]

/-- **Pipelines.** A pipeline can be written as nested calls, with any markers and behind any
source that ends outside of its actions: both are compiled or none is, and they are rendered
alike. -/
theorem pipeline_iff_nested {a p q : List Char} {drops left right : Bool} {first : Command}
    {stages : Stages} (ha : Settled false a drops) (hopen : a.getLast? ≠ some '\x7b')
    (hp : Spells left p right (first.tokens ++ stages.tokens))
    (hq : Spells left q right (stages.nest first).tokens) (name : String) (after : List Char) :
    let piped := compile name (String.ofList (a ++ (printMarked left p right ++ after)))
    let nested := compile name (String.ofList (a ++ (printMarked left q right ++ after)))
    ((∃ t, piped = .ok t) ↔ ∃ u, nested = .ok u) ∧
      ∀ t u, piped = .ok t → nested = .ok u → ∀ look, t.render look = u.render look := by
  intro piped nested
  have hscan : (scan false (a ++ (printMarked left p right ++ after))).toOption =
      (scan false (a ++ (printMarked left q right ++ after))).toOption := by
    obtain ⟨before, last, hlast, hbefore⟩ := exists_scan_append ha hopen
    rw [hbefore, hbefore, prepend, prepend, toOption_bind, toOption_bind]
    simp only [toOption_map, toOption_scan_nest hp hq hlast]
  have hcompile (t : Template) : piped = .ok t ↔ nested = .ok t :=
    compile_eq_ok_iff_of_scan hscan t
  refine ⟨exists_congr hcompile, fun t u ht hu look => ?_⟩
  rw [(hcompile t).mp ht] at hu
  rw [Except.ok.inj hu]

/-- Two calls behind bars, after a text and a marker. -/
theorem pipeline_iff_nested_quote :
    let a := "x".toList
    let p := " \"a\" | Quote | OrElse \"b\"".toList
    let q := " OrElse \"b\" (Quote (\"a\"))".toList
    let first := Command.literal "a"
    let stages := Stages.bar ⟨"Quote", by decide⟩ .done
      (.bar ⟨"OrElse", by decide⟩ (.literal "b" .done) .done)
    Settled false a false ∧ a.getLast? ≠ some '\x7b' ∧
      Spells true p false (first.tokens ++ stages.tokens) ∧
      Spells true q false (stages.nest first).tokens ∧
      ∃ t u, compile "t" (String.ofList (a ++ (printMarked true p false ++ []))) = .ok t ∧
        compile "t" (String.ofList (a ++ (printMarked true q false ++ []))) = .ok u ∧
        ∀ look, t.render look = u.render look := by
  intro a p q first stages
  have ha : Settled false a false := .text (by decide +kernel)
  have hopen : a.getLast? ≠ some '\x7b' := by decide +kernel
  have hquote : Lexes ("Quote".toList ++ [' ']) [.name "Quote"] :=
    lexes_word (w := "Quote".toList) (by decide) (by decide)
  have horElse : Lexes ("OrElse".toList ++ [' ']) [.name "OrElse"] :=
    lexes_word (w := "OrElse".toList) (by decide) (by decide)
  have hlast := horElse.append (lexes_literal ['b'])
  have hp : Spells true p false (first.tokens ++ stages.tokens) := by
    have hbar := lexes_bar.append lexes_blank
    have htokens := (lexes_literal ['a']).append (lexes_blank.append (hbar.append
      (hquote.append (hbar.append hlast))))
    exact ⟨htokens.tokenize, by decide +kernel, by decide⟩
  have hq : Spells true q false (stages.nest first).tokens := by
    have hgroup := lexes_opening.append ((lexes_literal ['a']).append lexes_closing)
    have htokens := hlast.append (lexes_blank.append (lexes_opening.append
      (hquote.append (hgroup.append lexes_closing))))
    exact ⟨htokens.tokenize, by decide +kernel, by decide⟩
  obtain ⟨hiff, hrender⟩ := pipeline_iff_nested ha hopen hp hq "t" []
  have hpiped :
      ∃ t, compile "t" (String.ofList (a ++ (printMarked true p false ++ []))) = .ok t := by
    have htext : Inert a := inert_of_plain (by decide +kernel) hopen
    rw [compile, String.toList_ofList, hp.scan_phrase htext, scan_of_cut_none (by rfl)]
    exact ⟨_, rfl⟩
  obtain ⟨t, ht⟩ := hpiped
  obtain ⟨u, hu⟩ := hiff.mp ⟨t, ht⟩
  exact ⟨ha, hopen, hp, hq, t, u, ht, hu, hrender t u ht hu⟩

end QueryGateway.Template
