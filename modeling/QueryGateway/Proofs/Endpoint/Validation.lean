import QueryGateway.Proofs.Config.Entries
import QueryGateway.Proofs.Endpoint.Interpolation

/-!
# The gate of validation

The checks of an endpoint are run in the order in which they are declared, and the first one that
refuses its value decides. So a request is accepted exactly if every rule admits the value of its
parameter, in whatever order the rules and their checks stand. A statement is sent for accepted
requests only, and the values that its template reads are the ones that were checked.
-/

namespace QueryGateway

/-! ## Rules -/

namespace ParameterRule

/-- Whether a rule admits a value: the value is not empty where it is required, and an empty
value or one in which the pattern occurs passes a pattern. -/
structure Admits (rule : ParameterRule) (value : String) : Prop where
  required : .required true ∈ rule.checks → value ≠ ""
  patterns : ∀ text p, .pattern text p ∈ rule.checks → value = "" ∨ p.occursIn value.toList = true

/-- Whether an entry declares a rule: its first word is the name, and the others are the
checks, in their order. -/
def Declares (entry : String) (rule : ParameterRule) : Prop :=
  ∃ words, Text.words entry.toList = rule.name.toList :: words ∧
    words.mapM ParameterCheck.parse = .ok rule.checks

/-- Whether an entry declares a rule at all. -/
def isEntry (entry : String) : Bool :=
  !(Text.words entry.toList).isEmpty

variable (rule : ParameterRule) (value : String)

/-- A rule fails with the first of its checks that refuses the value. -/
theorem check_eq : rule.check value =
    match rule.checks.find? fun check => !check.accepts value with
    | some check => .error (check.failure rule.name)
    | none => .ok () := by
  rw [check, List.forM_eq_forM]
  induction rule.checks with
  | nil => rfl
  | cons first checks ih =>
    rw [List.forM_cons, List.find?_cons, ParameterCheck.run]
    cases first.accepts value with
    | true => exact ih
    | false => rfl

/-- A rule admits a value exactly if all of its checks accept it. -/
theorem admits_iff : rule.Admits value ↔ ∀ check ∈ rule.checks, check.accepts value = true := by
  constructor
  · intro h check hcheck
    cases check with
    | required on =>
      cases on with
      | true => simpa [ParameterCheck.accepts] using h.required hcheck
      | false => rfl
    | pattern text p => simpa [ParameterCheck.accepts] using h.patterns text p hcheck
  · intro h
    refine ⟨fun hcheck => ?_, fun text p hcheck => ?_⟩
    · simpa [ParameterCheck.accepts] using h _ hcheck
    · simpa [ParameterCheck.accepts] using h _ hcheck

/-- A blank entry declares nothing, and any other one that is read declares its rule. -/
theorem declares_of_parse? {entry : String} {read : Option ParameterRule}
    (h : parse? entry = .ok read) :
    match read with
    | none => isEntry entry = false
    | some rule => isEntry entry = true ∧ Declares entry rule := by
  rw [parse?] at h
  rw [isEntry]
  cases hwords : Text.words entry.toList with
  | nil =>
    rw [hwords] at h
    obtain rfl := Except.ok.inj h
    rfl
  | cons name words =>
    rw [hwords] at h
    obtain ⟨checks, hchecks, h⟩ := exists_of_bind_eq_ok h
    obtain rfl := Except.ok.inj h
    refine ⟨rfl, words, ?_, hchecks⟩
    rw [hwords, String.toList_ofList]

/-- The rules that are read of entries are those that they declare, in their order. -/
theorem forall₂_declares {entries : List String} {read : List (Option ParameterRule)}
    (h : entries.mapM parse? = .ok read) :
    List.Forall₂ Declares (entries.filter isEntry) (read.filterMap id) := by
  induction entries generalizing read with
  | nil =>
    obtain rfl := Except.ok.inj h
    exact .nil
  | cons entry entries ih =>
    rw [List.mapM_cons] at h
    obtain ⟨first, hfirst, h⟩ := exists_of_bind_eq_ok h
    obtain ⟨rest, hrest, h⟩ := exists_of_bind_eq_ok h
    obtain rfl := Except.ok.inj h
    have hentry := declares_of_parse? hfirst
    cases first with
    | none =>
      rw [List.filter_cons_of_neg (by simp [hentry]), List.filterMap_cons_none rfl]
      exact ih hrest
    | some rule =>
      rw [List.filter_cons_of_pos hentry.1]
      exact .cons hentry.2 (ih hrest)

/-- Rules in another order, each with its checks in another order. -/
def Reordered (rules others : List ParameterRule) : Prop :=
  ∃ between, rules.Perm between ∧
    List.Forall₂ (fun r s => r.name = s.name ∧ r.checks.Perm s.checks) between others

/-- Reordering checks does not change which values are admitted. -/
theorem admits_congr {r s : ParameterRule} (h : r.checks.Perm s.checks) (value : String) :
    r.Admits value ↔ s.Admits value := by
  rw [admits_iff, admits_iff]
  exact forall_congr' fun check => by rw [h.mem_iff]

/-- Reordered rules admit the values of the same parameters. -/
theorem Reordered.forall_admits_iff {rules others : List ParameterRule}
    (h : Reordered rules others) (param : String → String) :
    (∀ rule ∈ rules, rule.Admits (param rule.name)) ↔
      ∀ rule ∈ others, rule.Admits (param rule.name) := by
  obtain ⟨between, hperm, hsame⟩ := h
  have hbetween : (∀ rule ∈ rules, rule.Admits (param rule.name)) ↔
      ∀ rule ∈ between, rule.Admits (param rule.name) :=
    forall_congr' fun rule => by rw [hperm.mem_iff]
  rw [hbetween]
  clear hperm hbetween
  induction hsame with
  | nil => simp
  | cons hfirst _ ih =>
    rw [List.forall_mem_cons, List.forall_mem_cons, hfirst.1]
    exact and_congr (admits_congr hfirst.2 _) ih

end ParameterRule

/-! ## Parameters in templates -/

namespace Template

/-- Whether an expression stands in another one, or is it. -/
inductive Expression.Within (part : Expression) : Expression → Prop
  | self : Within part part
  | param {name : Expression} (h : Within part name) : Within part (.param name)
  | flag {name : Expression} (h : Within part name) : Within part (.flag name)
  | header {name : Expression} (h : Within part name) : Within part (.header name)
  | fallback {fallback value : Expression} (h : Within part fallback) :
    Within part (.orElse fallback value)
  | value {fallback value : Expression} (h : Within part value) :
    Within part (.orElse fallback value)
  | quote {value : Expression} (h : Within part value) : Within part (.quote value)

/-- Whether an expression stands anywhere in a body: in an output, in a condition, or in
either part of a branch. -/
inductive Body.Mentions (e : Expression) : Body → Prop
  | text {s : List Char} {rest : Body} (h : Mentions e rest) : Mentions e (.text s rest)
  | output {other : Expression} {rest : Body} (h : e.Within other) :
    Mentions e (.output other rest)
  | behindOutput {other : Expression} {rest : Body} (h : Mentions e rest) :
    Mentions e (.output other rest)
  | condition {condition : Expression} {yes no rest : Body} (h : e.Within condition) :
    Mentions e (.branch condition yes no rest)
  | yes {condition : Expression} {yes no rest : Body} (h : Mentions e yes) :
    Mentions e (.branch condition yes no rest)
  | no {condition : Expression} {yes no rest : Body} (h : Mentions e no) :
    Mentions e (.branch condition yes no rest)
  | behindBranch {condition : Expression} {yes no rest : Body} (h : Mentions e rest) :
    Mentions e (.branch condition yes no rest)

end Template

namespace Endpoint

/-! ## Accepted requests -/

/-- The checks of an endpoint with the names of their parameters, in the order in which they
are declared. -/
def declaredChecks (e : Endpoint) : List (String × ParameterCheck) :=
  e.rules.flatMap fun rule => rule.checks.map fun check => (rule.name, check)

/-- The first check that refuses the value of its parameter. -/
def firstRefusal? (e : Endpoint) (c : Context) : Option (String × ParameterCheck) :=
  e.declaredChecks.find? fun (name, check) => !check.accepts (c.param name)

variable {e : Endpoint} {c : Context} {db : Database} {request : Request}

/-- Validation fails with the first check that refuses the value of its parameter. -/
theorem validate_eq_firstRefusal? (e : Endpoint) (c : Context) :
    e.validate c = match e.firstRefusal? c with
      | some (name, check) => .error (check.failure name)
      | none => .ok () := by
  rw [validate, firstRefusal?, declaredChecks, List.forM_eq_forM]
  induction e.rules with
  | nil => rfl
  | cons rule rules ih =>
    rw [List.forM_cons, List.flatMap_cons, List.find?_append, List.find?_map,
      ParameterRule.check_eq]
    have hchecks : (fun p : String × ParameterCheck => !p.2.accepts (c.param p.1)) ∘
        (fun check => (rule.name, check)) = fun check => !check.accepts (c.param rule.name) := rfl
    rw [hchecks]
    cases rule.checks.find? fun check => !check.accepts (c.param rule.name) with
    | none => exact ih
    | some check => rfl

/-- A request is accepted exactly if every rule admits the value of its parameter. -/
theorem validate_eq_ok_iff (e : Endpoint) (c : Context) :
    e.validate c = .ok () ↔ ∀ rule ∈ e.rules, rule.Admits (c.param rule.name) := by
  have hnone : e.validate c = .ok () ↔ e.firstRefusal? c = none := by
    rw [validate_eq_firstRefusal?]
    cases e.firstRefusal? c <;> simp
  rw [hnone, firstRefusal?, List.find?_eq_none]
  simp only [declaredChecks, List.mem_flatMap, List.mem_map, ParameterRule.admits_iff]
  constructor
  · intro h rule hrule check hcheck
    simpa using h _ ⟨rule, hrule, check, hcheck, rfl⟩
  · rintro h _ ⟨rule, hrule, check, hcheck, rfl⟩
    simpa using h rule hrule check hcheck

/-! ## Statements that are sent -/

/-- A statement without a text is not sent. -/
theorem sent_of_no_statement {failure : RequestFailure} (hcontext : e.context request = .ok c)
    (haccepted : e.refusal? c = none) (hsql : e.statement c = .error failure) :
    (e.handle db request).2 = [] := by
  have hstatement : (e.source c).statement = .error failure := hsql
  rw [handle_of_accepted hcontext haccepted]
  cases hkind : e.statementKind with
  | query => exact (Encoder.Kind.query_of_no_statement (e.encoderKind c) db hstatement).2
  | update =>
    rw [encoderKind_of_update hkind c]
    exact (Encoder.update_of_no_statement db hstatement).2

/-- What reaches the database is the laid-out text of the template, for a request that is
accepted. -/
theorem exists_of_sent_ne_nil (hsent : (e.handle db request).2 ≠ []) :
    ∃ c text, e.context request = .ok c ∧ e.validate c = .ok () ∧
      e.template.render c.lookups = .ok text ∧
      (e.handle db request).2 = e.sentFor db (e.layout.apply text) := by
  cases hcontext : e.context request with
  | error failure =>
    rw [handle, hcontext] at hsent
    exact absurd rfl hsent
  | ok c =>
    cases hvalidate : e.validate c with
    | error failure => simp [handle, hcontext, hvalidate] at hsent
    | ok _ =>
      cases hrender : e.template.render c.lookups with
      | ok text =>
        have hsql : e.statement c = .ok (e.layout.apply text) := by simp [statement, hrender]
        exact ⟨c, text, rfl, hvalidate, hrender, sent_of_statement db hcontext hvalidate hsql⟩
      | error failure =>
        have haccepted : e.refusal? c = none := by
          rw [validate_eq] at hvalidate
          cases hrefusal : e.refusal? c with
          | none => rfl
          | some failure => simp [hrefusal] at hvalidate
        have hsql : e.statement c = .error (.render (.template e.template.name failure)) := by
          simp [statement, hrender]
        exact absurd (sent_of_no_statement hcontext haccepted hsql) hsent

/-! ## The gate -/

/-- A value that a template reads from a parameter and writes into a statement. -/
structure Interpolated (e : Endpoint) (c : Context) (text name value : String) : Prop where
  mentioned : e.template.body.Mentions (.param (.text name)) →
    Template.Expression.eval c.lookups (.param (.text name)) = .ok (.text value)
  written : ∀ before after,
    e.template.body.Reaches c.lookups (.param (.text name)) before after →
      text = before ++ value ++ after

/-- How an endpoint that is built from an entry of a configuration validates requests. -/
structure Gate (v : View) (e : Endpoint) : Prop where
  /-- A list that can be indexed at all declares the rules. -/
  declared : (v.itemsAt "params").length ≤ Path.indexLimit → List.Forall₂ ParameterRule.Declares
    ((v.entriesAt "params").filter ParameterRule.isEntry) e.rules
  first_failure : ∀ c, e.validate c = match e.firstRefusal? c with
    | some (name, check) => .error (check.failure name)
    | none => .ok ()
  accepts : ∀ c, e.validate c = .ok () ↔ ∀ rule ∈ e.rules, rule.Admits (c.param rule.name)
  reordered : ∀ other : Endpoint, ParameterRule.Reordered e.rules other.rules →
    ∀ c, other.validate c = .ok () ↔ e.validate c = .ok ()
  /-- Every value of a declared parameter in a statement that is sent was admitted. -/
  sent : ∀ db request, (e.handle db request).2 ≠ [] → ∃ c text,
    e.context request = .ok c ∧ (e.handle db request).2 = e.sentFor db (e.layout.apply text) ∧
      ∀ rule ∈ e.rules, ∃ value, e.Interpolated c text rule.name value ∧
        ∀ other ∈ e.rules, other.name = rule.name → other.Admits value

/-- The text of a parameter is what a template reads and writes. -/
theorem interpolated_param {text : String} (hrender : e.template.render c.lookups = .ok text)
    (name : String) : e.Interpolated c text name (c.param name) where
  mentioned _ := rfl
  written before after hreaches := by
    have hwritten := Template.render_of_reaches hreaches
      (show Template.Expression.eval c.lookups (.param (.text name)) =
        .ok (.text (c.param name)) from rfl)
    exact Except.ok.inj (hrender.symm.trans hwritten)

/-- **The gate of validation.** The checks of an endpoint are those that its entries declare. The
first one that refuses decides, but whether a request is accepted does not depend on their
order, and a statement that is sent has only admitted values of the declared parameters. -/
theorem validation_gate {layout : Statement.Layout} {v : View} {e : Endpoint}
    (hbuilt : ofView layout v = .ok e) : Gate v e where
  declared hlimit := by
    obtain ⟨read, hread, hrules⟩ := exists_of_map_eq_ok (builtFrom_of_ofView hbuilt).rules
    rw [← hrules]
    exact ParameterRule.forall₂_declares (mapM_of_readItems (by decide) hlimit hread)
  first_failure := e.validate_eq_firstRefusal?
  accepts := e.validate_eq_ok_iff
  reordered other hreordered c := by
    rw [validate_eq_ok_iff, validate_eq_ok_iff, hreordered.forall_admits_iff]
  sent db request hsent := by
    obtain ⟨c, text, hcontext, hvalidate, hrender, hstatement⟩ := exists_of_sent_ne_nil hsent
    refine ⟨c, text, hcontext, hstatement, fun rule _ =>
      ⟨c.param rule.name, interpolated_param hrender rule.name, fun other hother hname => ?_⟩⟩
    rw [← hname]
    exact (e.validate_eq_ok_iff c).mp hvalidate other hother

/-- A parameter that is checked in two entries, with a blank one between them, and a request that
its last check refuses. -/
theorem validation_gate_twice :
    let v : View := ⟨.map [("params", .list [.text "id required:on pattern:^a", .text " ",
        .text "id pattern:b"]),
      ("sql", .text "select \x7b\x7b Param \"id\" | Quote \x7d\x7d"), ("url", .text "/users")]⟩
    let request : Request := { target := ⟨"/users", some "id=ac"⟩ }
    ∃ e c, ofView .verbatim v = .ok e ∧ e.context request = .ok c ∧
      e.validate c = .error (.invalid "id") ∧
      ¬ ∀ rule ∈ e.rules, rule.Admits (c.param rule.name) := by
  intro v request
  have hanswer : ((ofView .verbatim v).toOption.bind fun e =>
      (e.context request).toOption.map e.validate) = some (.error (.invalid "id")) := by
    decide +kernel
  obtain ⟨e, hbuilt⟩ : ∃ e, ofView .verbatim v = .ok e :=
    exists_of_isSome_toOption (by decide +kernel)
  obtain ⟨c, hcontext⟩ : ∃ c, e.context request = .ok c := ⟨_, rfl⟩
  rw [hbuilt] at hanswer
  have hrefused : e.validate c = .error (.invalid "id") := by
    simpa [Except.toOption, hcontext] using hanswer
  refine ⟨e, c, hbuilt, hcontext, hrefused, fun hadmits => ?_⟩
  have haccepted := ((validation_gate hbuilt).accepts c).mpr hadmits
  rw [hrefused] at haccepted
  cases haccepted

end Endpoint

end QueryGateway
