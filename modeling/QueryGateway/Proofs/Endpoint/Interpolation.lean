import QueryGateway.Proofs.Endpoint.Built
import QueryGateway.Proofs.Endpoint.Contract
import QueryGateway.Proofs.Statement.Literals
import QueryGateway.Proofs.Template.Concatenation
import QueryGateway.Proofs.Template.Pipelines

/-!
# Values in statements

A template writes the quoted text of a parameter into a statement, which is laid out before
it is sent. This module follows the text to the database: the statement has a literal at its
place, whose characters are those of the parameter exactly if the layout keeps them. Both ends
are covered: the body of a template, where the output may stand in branches, and the configured
source, where its action stands between two templates.
-/

namespace QueryGateway

namespace Template

/-! ## Outputs that are reached -/

/-- While a body is rendered, an output is reached: `before` is the text that is written
before it, and `after` the text behind it. -/
inductive Body.Reaches (look : Lookups) (e : Expression) : Body → String → String → Prop
  | here {rest : Body} {after : String} (hrest : rest.render look = .ok after) :
    Reaches look e (.output e rest) "" after
  | text {s : List Char} {rest : Body} {before after : String}
    (hrest : Reaches look e rest before after) :
    Reaches look e (.text s rest) (String.ofList s ++ before) after
  | output {other : Expression} {value : Value} {rest : Body} {before after : String}
    (hother : other.eval look = .ok value) (hrest : Reaches look e rest before after) :
    Reaches look e (.output other rest) (value.toText ++ before) after
  | inside {condition : Expression} {value : Value} {yes no rest : Body}
    {before after ending : String} (hcondition : condition.eval look = .ok value)
    (hchosen : Reaches look e (if value.isTrue then yes else no) before after)
    (hrest : rest.render look = .ok ending) :
    Reaches look e (.branch condition yes no rest) before (after ++ ending)
  | behind {condition : Expression} {value : Value} {yes no rest : Body}
    {chosen before after : String} (hcondition : condition.eval look = .ok value)
    (hchosen : (if value.isTrue then yes else no).render look = .ok chosen)
    (hrest : Reaches look e rest before after) :
    Reaches look e (.branch condition yes no rest) (chosen ++ before) after

/-- A branch is rendered as the body that its condition chooses, and what follows it. -/
theorem render_branch {look : Lookups} {condition : Expression} {value : Value}
    {yes no rest : Body} {chosen ending : String} (hcondition : condition.eval look = .ok value)
    (hchosen : (if value.isTrue then yes else no).render look = .ok chosen)
    (hrest : rest.render look = .ok ending) :
    (Body.branch condition yes no rest).render look = .ok (chosen ++ ending) := by
  rw [render_branch_eq, hcondition]
  simp only [bind, Except.bind, hchosen, hrest]

/-- An output that is reached writes its text between the other two. -/
theorem render_of_reaches {look : Lookups} {e : Expression} {value : Value} {body : Body}
    {before after : String} (hreaches : body.Reaches look e before after)
    (hvalue : e.eval look = .ok value) :
    body.render look = .ok (before ++ value.toText ++ after) := by
  induction hreaches with
  | here hrest => simp [Body.render, hvalue, hrest, bind, Except.bind]
  | text _ ih => simp [Body.render, ih, bind, Except.bind, String.append_assoc]
  | output hother _ ih =>
    simp [Body.render, hother, ih, bind, Except.bind, String.append_assoc]
  | inside hcondition _ hrest ih =>
    rw [render_branch hcondition ih hrest]
    simp [String.append_assoc]
  | behind hcondition hchosen _ ih =>
    rw [render_branch hcondition hchosen ih]
    simp [String.append_assoc]

/-- An output between two bodies is reached if both of them are rendered. -/
theorem reaches_append {look : Lookups} (e : Expression) {b next : Body} {before after : String}
    (hb : b.render look = .ok before) (hnext : next.render look = .ok after) :
    (b.append (.output e next)).Reaches look e before after := by
  induction b generalizing before with
  | nothing =>
    obtain rfl := Except.ok.inj hb
    exact .here hnext
  | text s rest ih =>
    obtain ⟨ending, hrest, hb⟩ := exists_of_bind_eq_ok hb
    obtain rfl := Except.ok.inj hb
    exact .text (ih hrest)
  | output other rest ih =>
    obtain ⟨value, hother, hb⟩ := exists_of_bind_eq_ok hb
    obtain ⟨ending, hrest, hb⟩ := exists_of_bind_eq_ok hb
    obtain rfl := Except.ok.inj hb
    exact .output hother (ih hrest)
  | branch condition yes no rest _ _ ih =>
    rw [render_branch_eq] at hb
    obtain ⟨value, hcondition, hb⟩ := exists_of_bind_eq_ok hb
    obtain ⟨chosen, hchosen, hb⟩ := exists_of_bind_eq_ok hb
    obtain ⟨ending, hrest, hb⟩ := exists_of_bind_eq_ok hb
    obtain rfl := Except.ok.inj hb
    exact .behind hcondition hchosen (ih hrest)

/-! ## Actions between templates -/

section

variable {body : List Char} {first : Command} {stages : Stages} {e : Expression}

/-- A pipeline in an action without markers, between two sources: the pieces are those of the two
sources, with its output between them. -/
theorem scan_phrase_between {a b : List Char} {items others : List Item}
    (ha : scan false a = .ok items) (hb : scan false b = .ok others)
    (hopen : a.getLast? ≠ some '\x7b')
    (hspells : Spells false body false (first.tokens ++ stages.tokens))
    (hvalue : first.value >>= stages.value = .ok e) :
    scan false (a ++ (printMarked false body false ++ b)) = .ok (items ++ .output e :: others) := by
  obtain ⟨drops, hsettled⟩ := exists_settled_of_scan ha
  obtain ⟨before, last, hlast, hscan⟩ := exists_scan_append hsettled hopen
  have hfront : .ok items = prepend before (.ok (textItems (trimEnds drops false last))) :=
    ha.symm.trans (scan_of_scan_append hlast hscan)
  rw [hscan, hspells.scan_phrase hlast, hvalue, hb]
  rcases before with failure | before
  · cases hfront
  · obtain rfl := Except.ok.inj hfront
    simp [prepend, bind, Except.bind, Except.map]

/-- An output before pieces that form a body. -/
theorem ofItems_output {items : List Item} {b : Body} (h : Body.ofItems items = .ok b) :
    Body.ofItems (.output e :: items) = .ok (.output e b) := by
  have hpush : Suffix.ofItems (.output e :: items) = (Suffix.ofItems items).push (.output e) := rfl
  rw [Body.ofItems, hpush, Suffix.eq_whole_of_toBody h]
  rfl

/-- A pipeline in an action between two templates is an output between their bodies. -/
theorem compile_phrase_between {named front back : String} {s t : Template}
    (hs : compile named front = .ok s) (ht : compile named back = .ok t)
    (hopen : front.toList.getLast? ≠ some '\x7b')
    (hspells : Spells false body false (first.tokens ++ stages.tokens))
    (hvalue : first.value >>= stages.value = .ok e) (name : String) :
    compile name (front ++ String.ofList (printMarked false body false) ++ back) =
      .ok ⟨name, s.body.append (.output e t.body)⟩ := by
  rw [← String.ofList_toList (s := front)] at hs
  rw [← String.ofList_toList (s := back)] at ht
  obtain ⟨items, hitems, hbody⟩ := exists_scan_of_compile hs
  obtain ⟨others, hothers, hnext⟩ := exists_scan_of_compile ht
  have htext : (front ++ String.ofList (printMarked false body false) ++ back).toList =
      front.toList ++ (printMarked false body false ++ back.toList) := by
    simp
  rw [compile, htext, scan_phrase_between hitems hothers hopen hspells hvalue]
  simp only [bind, Except.bind, ofItems_append hbody (ofItems_output hnext)]

end

/-! ## Quoted parameters -/

/-- A parameter whose text is quoted. -/
def quotedParam (name : String) : Expression :=
  .quote (.param (.text name))

/-- A quoted parameter as it is written with a bar. -/
def quotedParamText (name : String) : List Char :=
  "Param ".toList ++ printLiteral name.toList ++ " | Quote".toList

/-- A quoted parameter in its braces. -/
def quotedParamAction (name : String) : List Char :=
  printAction (quotedParamText name)

example : quotedParamAction "p" = "\x7b\x7b Param \"p\" | Quote \x7d\x7d".toList := by
  decide +kernel

theorem framed_quotedParamText (name : String) : Framed (quotedParamText name) := by
  constructor
  · rintro c ⟨⟩
    decide
  · unfold quotedParamText
    rw [List.getLast?_append]
    rintro c ⟨⟩
    decide

/-- The tokens of a quoted parameter. -/
theorem tokenize_quotedParamText (name : String) :
    tokenize (quotedParamText name) = .ok [.name "Param", .literal name, .bar, .name "Quote"] := by
  have hparam : Lexes "Param ".toList [.name "Param"] :=
    lexes_word (w := "Param".toList) (by decide) (by decide)
  have hliteral := lexes_literal name.toList
  rw [String.ofList_toList] at hliteral
  have hbar := lexes_blank.append (lexes_bar.append lexes_blank)
  have hquote : tokenize "Quote".toList = .ok [.name "Quote"] :=
    tokenize_lastWord (w := "Quote".toList) (by decide) (by decide)
  have htokens := (hparam.append hliteral).append hbar "Quote".toList
  rw [hquote] at htokens
  unfold quotedParamText
  simpa [Except.map] using htokens

/-- The action between two templates is an output of the quoted parameter between their bodies. -/
theorem compile_quotedParam_between {named front back : String} {s t : Template}
    (hs : compile named front = .ok s) (ht : compile named back = .ok t)
    (hopen : front.toList.getLast? ≠ some '\x7b') (param name : String) :
    compile name (front ++ String.ofList (quotedParamAction param) ++ back) =
      .ok ⟨name, s.body.append (.output (quotedParam param) t.body)⟩ := by
  let first := Command.call ⟨"Param", by decide⟩ (.literal param .done)
  let stages := Stages.bar ⟨"Quote", by decide⟩ .done .done
  have hspells : Spells false (' ' :: (quotedParamText param ++ [' '])) false
      (first.tokens ++ stages.tokens) := by
    refine ⟨?_, by simp, by simp⟩
    rw [trim_framed (framed_quotedParamText param), tokenize_quotedParamText]
    rfl
  have hvalue : first.value >>= stages.value = .ok (quotedParam param) := rfl
  have haction := compile_phrase_between hs ht hopen hspells hvalue name
  simpa [quotedParamAction, printAction, printMarked, hyphen] using haction

/-- The text of a quoted parameter that is not empty. -/
theorem eval_quotedParam {look : Lookups} {name value : String} (hvalue : look.param name = value)
    (hne : value ≠ "") :
    (quotedParam name).eval look = .ok (.text ("'" ++ value ++ "'")) := by
  have hempty : value.isEmpty = false := by simpa using hne
  simp [quotedParam, Expression.eval, Value.textFor, bind, Except.bind, hvalue, quote, hempty]

end Template

namespace Statement

/-- A statement has a text as a literal between two parts: it stands in single quotes, outside
of other quotes, and does not end before its closing quote. -/
structure HasLiteral (statement : String) (before text after : List Char) : Prop where
  eq : statement.toList = before ++ '\'' :: text ++ '\'' :: after
  outside : before.count '\'' % 2 = 0
  closed : '\'' ∉ text

/-- A statement contains its literals with their quotes. -/
theorem HasLiteral.isInfix {statement : String} {before text after : List Char}
    (h : HasLiteral statement before text after) :
    '\'' :: text ++ ['\''] <:+: statement.toList :=
  ⟨before, after, by rw [h.eq]; simp⟩

/-- A text in quotes that is laid out with what stands around it is a literal. -/
theorem Layout.hasLiteral_apply (layout : Layout) {before value after : String}
    (hquote : '\'' ∉ value.toList) (houtside : before.toList.count '\'' % 2 = 0) :
    HasLiteral (layout.apply (before ++ ("'" ++ value ++ "'") ++ after))
      (layout.opening before.toList) (layout.spread value.toList)
      (layout.closing after.toList) where
  eq := by
    have htext : (before ++ ("'" ++ value ++ "'") ++ after).toList =
        before.toList ++ '\'' :: value.toList ++ '\'' :: after.toList := by
      simp
    rw [Layout.apply, String.toList_ofList, htext, layout.applyChars_literal]
  outside := by
    rw [layout.count_opening]
    exact houtside
  closed := layout.notMem_spread hquote

end Statement

namespace Endpoint

variable {e : Endpoint} {request : Request} {c : Context}

/-- What the database receives of a request that is not refused. -/
theorem sent_of_statement (db : Database) {sql : String} (hcontext : e.context request = .ok c)
    (hvalid : e.validate c = .ok ()) (hsql : e.statement c = .ok sql) :
    (e.handle db request).2 = e.sentFor db sql := by
  have haccepted : e.refusal? c = none := by
    rw [validate_eq] at hvalid
    cases hrefusal : e.refusal? c with
    | none => rfl
    | some failure => simp [hrefusal] at hvalid
  have hstatement : (e.source c).statement = .ok sql := hsql
  rw [handle_of_accepted hcontext haccepted]
  cases hkind : e.statementKind with
  | query => exact (answered_of_query hkind hstatement).sent_eq
  | update => exact (answered_of_update hkind hstatement).sent_eq

/-- The statement for a request, where a quoted parameter is reached: its text stands in quotes
before the statement is laid out. -/
theorem statement_of_reaches {name value before after : String}
    (hreaches : e.template.body.Reaches c.lookups (Template.quotedParam name) before after)
    (hvalue : c.param name = value) (hne : value ≠ "") :
    e.statement c = .ok (e.layout.apply (before ++ ("'" ++ value ++ "'") ++ after)) := by
  have hrender : e.template.render c.lookups = .ok (before ++ ("'" ++ value ++ "'") ++ after) :=
    Template.render_of_reaches hreaches (Template.eval_quotedParam hvalue hne)
  rw [statement, hrender]

/-- **Literals of parameters.** Wherever a template writes a quoted parameter outside of other
quotes, the statement that is sent has a literal. It holds the text of the parameter with its
blanks laid out, and so the text itself exactly if the layout keeps it. -/
theorem sent_literal (db : Database) {name value before after : String}
    (hcontext : e.context request = .ok c) (hvalid : e.validate c = .ok ())
    (hreaches : e.template.body.Reaches c.lookups (Template.quotedParam name) before after)
    (hvalue : c.param name = value) (hne : value ≠ "") (hquote : '\'' ∉ value.toList)
    (houtside : before.toList.count '\'' % 2 = 0) :
    ∃ statement, (e.handle db request).2 = e.sentFor db statement ∧
      Statement.HasLiteral statement (e.layout.opening before.toList)
        (e.layout.spread value.toList) (e.layout.closing after.toList) ∧
      (e.layout.spread value.toList = value.toList ↔ e.layout.Keeps value.toList) := by
  have hsql := statement_of_reaches hreaches hvalue hne
  exact ⟨_, sent_of_statement db hcontext hvalid hsql, e.layout.hasLiteral_apply hquote houtside,
    e.layout.spread_eq_self_iff value.toList⟩

/-- A text with two lines, the second one indented, in a statement without blank lines. -/
theorem sent_literal_indented :
    let e : Endpoint := ⟨"/a", [], .get,
      ⟨"GET/a", .text "select ".toList (.output (Template.quotedParam "p") .nothing)⟩,
      .withoutBlankLines, .query, .list, ⟨[], .verbatim⟩, ⟨[], .verbatim⟩, [], []⟩
    let request : Request := { target := ⟨"/a", some "p=x++y%0A+z"⟩ }
    ∃ c statement, e.context request = .ok c ∧ e.validate c = .ok () ∧
      c.param "p" = "x  y\n z" ∧ e.layout.Keeps "x  y\n z".toList ∧
      (e.handle (.scripted {}) request).2 = e.sentFor (.scripted {}) statement ∧
      Statement.HasLiteral statement (e.layout.opening "select ".toList) "x  y\n z".toList
        (e.layout.closing []) := by
  intro e request
  obtain ⟨c, hcontext⟩ : ∃ c, e.context request = .ok c := ⟨_, rfl⟩
  have hparam : c.param "p" = "x  y\n z" := by
    obtain rfl := Except.ok.inj (Eq.trans (Eq.symm hcontext) rfl)
    decide +kernel
  have hreaches : e.template.body.Reaches c.lookups (Template.quotedParam "p") "select " "" :=
    .text (.here rfl)
  have hkeeps : e.layout.Keeps "x  y\n z".toList := by decide
  obtain ⟨statement, hsent, hliteral, hspread⟩ := sent_literal (.scripted {}) hcontext rfl hreaches
    hparam (by decide) (by decide) (by decide)
  rw [hspread.mpr hkeeps] at hliteral
  exact ⟨c, statement, hcontext, rfl, hparam, hkeeps, hsent, hliteral⟩

/-- Literals that are not sent as they are: one whose line break is folded, and one that loses
the blank before its line break. -/
theorem not_sent_literal :
    let e (layout : Statement.Layout) : Endpoint := ⟨"/a", [], .get,
      ⟨"GET/a", .text "select ".toList (.output (Template.quotedParam "p") .nothing)⟩,
      layout, .query, .list, ⟨[], .verbatim⟩, ⟨[], .verbatim⟩, [], []⟩
    let request : Request := { target := ⟨"/a", some "p=x+%0Ay"⟩ }
    (∀ layout, ∃ c, (e layout).context request = .ok c ∧ (e layout).validate c = .ok () ∧
      c.param "p" = "x \ny") ∧
    ((e .singleLine).handle (.scripted {}) request).2 =
      [.prepare "select 'x y'", .run "select 'x y'"] ∧
    ((e .withoutBlankLines).handle (.scripted {}) request).2 =
      [.prepare "select 'x\ny'", .run "select 'x\ny'"] ∧
    ∀ statement ∈ ["select 'x y'", "select 'x\ny'"], ∀ before after,
      ¬ Statement.HasLiteral statement before "x \ny".toList after := by
  intro e request
  refine ⟨fun layout => ⟨_, rfl, rfl, ?_⟩, by decide +kernel, by decide +kernel, ?_⟩
  · cases layout <;> decide +kernel
  · intro statement hstatement before after hliteral
    have hmissing : ∀ statement ∈ ["select 'x y'", "select 'x\ny'"],
        ¬ '\'' :: "x \ny".toList ++ ['\''] <:+: statement.toList := by decide +kernel
    exact hmissing statement hstatement hliteral.isInfix

/-- A quoted parameter that the source of an endpoint writes between two templates is reached if
both of them are rendered. -/
theorem BuiltFrom.reaches_quotedParam {layout : Statement.Layout} {v : View}
    (h : BuiltFrom layout v e) {look : Template.Lookups} {s t : Template}
    {name front back named before after : String}
    (hsource : v.text "sql" "" = front ++ String.ofList (Template.quotedParamAction name) ++ back)
    (hs : Template.compile named front = .ok s) (ht : Template.compile named back = .ok t)
    (hopen : front.toList.getLast? ≠ some '\x7b') (hbefore : s.render look = .ok before)
    (hafter : t.render look = .ok after) :
    e.template.body.Reaches look (Template.quotedParam name) before after := by
  have htemplate := h.template
  rw [hsource, Template.compile_quotedParam_between hs ht hopen] at htemplate
  rw [← Except.ok.inj htemplate]
  exact Template.reaches_append _ hbefore hafter

/-- **Literals of configured sources.** The source of an endpoint writes a quoted parameter between
two templates that are rendered, the first one to a text without an open quote. The statement that
is sent has a literal between what the layout makes of the two texts. -/
theorem sent_of_quotedParamAction (db : Database) {layout : Statement.Layout} {v : View}
    {s t : Template} {name front back named value before after : String}
    (hbuilt : ofView layout v = .ok e)
    (hsource : v.text "sql" "" = front ++ String.ofList (Template.quotedParamAction name) ++ back)
    (hs : Template.compile named front = .ok s) (ht : Template.compile named back = .ok t)
    (hopen : front.toList.getLast? ≠ some '\x7b')
    (hcontext : e.context request = .ok c) (hvalid : e.validate c = .ok ())
    (hbefore : s.render c.lookups = .ok before) (hafter : t.render c.lookups = .ok after)
    (hvalue : c.param name = value) (hne : value ≠ "") (hquote : '\'' ∉ value.toList)
    (houtside : before.toList.count '\'' % 2 = 0) :
    ∃ statement, (e.handle db request).2 = e.sentFor db statement ∧
      Statement.HasLiteral statement (layout.opening before.toList) (layout.spread value.toList)
        (layout.closing after.toList) ∧
      (layout.spread value.toList = value.toList ↔ layout.Keeps value.toList) := by
  have hentry := builtFrom_of_ofView hbuilt
  have hreaches := hentry.reaches_quotedParam hsource hs ht hopen hbefore hafter
  have hsql := statement_of_reaches hreaches hvalue hne
  rw [hentry.layout] at hsql
  exact ⟨_, sent_of_statement db hcontext hvalid hsql, layout.hasLiteral_apply hquote houtside,
    layout.spread_eq_self_iff value.toList⟩

example :
    let source := "select \x7b\x7b Param \"p\" | Quote \x7d\x7d"
    let v : View := ⟨.map [("sql", .text source), ("url", .text "/a")]⟩
    let request : Request := { target := ⟨"/a", some "p=x"⟩ }
    (ofView .withoutBlankLines v).toOption.map (fun e => (e.handle (.scripted {}) request).2) =
      some [.prepare "select 'x'", .run "select 'x'"] := by
  decide +kernel

end Endpoint

end QueryGateway
