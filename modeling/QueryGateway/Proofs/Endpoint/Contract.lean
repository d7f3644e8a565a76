import QueryGateway.Endpoint.Handle
import QueryGateway.Proofs.Answer.Envelope
import QueryGateway.Proofs.Database.Feeding

/-!
# The contract of endpoints

A request is refused, fails to give a statement, or has its statement run at most once.
This module states what the answer is in each case, whichever encoder is chosen and
wherever a failure occurs, and proves it of the handler.
-/

namespace QueryGateway

namespace Encoder

/-! ## The encoders of queries -/

/-- How an encoder of queries refuses rows: only CSV does, if a row has another number of
cells than there are columns. -/
def Kind.refuse : Kind → List Column → Nat → Option RequestFailure
  | .csv, columns, cells =>
    if cells = columns.length then none else some (.encoding ⟨cells, columns.length⟩)
  | _, _, _ => none

/-- Whether an encoder answers an empty result as not found. -/
def Kind.needsRows : Kind → Bool
  | .list => true
  | .single => true
  | _ => false

/-- The answer of an encoder of queries after a number of rows. -/
def Kind.Answers (kind : Kind) (rows : Nat) (r : Response) : Prop :=
  if kind.needsRows = true ∧ rows = 0 then r = .notFound else r.status = 200

variable (source : Source)

theorem refusesByWidth_list : RefusesByWidth (list source) Kind.list.refuse Kind.list.Answers
    fun _ n s => s.rows = n where
  columns cs s := ⟨_, rfl, rfl⟩
  row cs n s row hs := ⟨_, _, rfl, rfl, fun _ => congrArg (· + 1) hs⟩
  finish cs n s hs := by
    by_cases hn : n = 0 <;> simp [Kind.Answers, Kind.needsRows, list, base, hs, hn, Response.json]
  fail e s := rfl

theorem refusesByWidth_single : RefusesByWidth (single source) Kind.single.refuse
    Kind.single.Answers fun _ n s => s.rows = 0 ↔ n = 0 where
  columns cs s := ⟨_, rfl, by simp⟩
  row cs n s row hs := by
    refine ⟨_, _, rfl, rfl, fun _ => ?_⟩
    by_cases hrows : s.rows = 0 <;> simp [hrows]
  finish cs n s hs := by
    by_cases hn : n = 0 <;>
      simp [Kind.Answers, Kind.needsRows, single, base, hs, hn, Response.json]
  fail e s := rfl

theorem refusesByWidth_csv : RefusesByWidth (csv source) Kind.csv.refuse Kind.csv.Answers
    fun cs _ s => ∃ w, s = some w ∧ w.line = [] ∧ w.width = some cs.length where
  columns cs s := by
    obtain ⟨header, hheader⟩ : ∃ header,
        (cs.map fun c => Utf8.ofString (source.csvNames.nameOf c.name)) = header := ⟨_, rfl⟩
    have hwrite : Csv.Writer.write {} header = _ := Csv.Writer.write_of_width rfl rfl
    have hlength : header.length = cs.length := by rw [← hheader, List.length_map]
    rw [hlength] at hwrite
    exact ⟨some _, by rw [csv]; simp only [hheader, hwrite]; rfl, _, rfl, rfl, rfl⟩
  row cs n s row hs := by
    obtain ⟨w, rfl, hline, hwidth⟩ := hs
    by_cases hlength : row.length = cs.length
    · have hwrite : w.write row = _ := Csv.Writer.write_of_width hline (by simp [hwidth, hlength])
      rw [hlength] at hwrite
      refine ⟨.ok (), some _, by rw [csv]; simp only [hwrite]; rfl, ?_, fun _ => ⟨_, rfl, rfl, rfl⟩⟩
      simp [Kind.refuse, hlength]
    · have hwrite := Csv.Writer.write_of_width_ne hline hwidth hlength
      refine ⟨.error (.encoding ⟨row.length, cs.length⟩), some _,
        by rw [csv]; simp only [hwrite]; rfl, ?_, by simp⟩
      simp [Kind.refuse, hlength]
  finish cs n s hs := by simp [Kind.Answers, Kind.needsRows, csv, base, Response.csvDownload]
  fail e s := rfl

/-! ## Whichever encoder is chosen -/

/-- The response of an encoder to a query, with what the database receives. -/
def Kind.query (kind : Kind) (source : Source) (db : Database) : Response × List Sent :=
  use kind source fun enc s => ((enc.query s db).response, (enc.query s db).sent)

/-- The response of an encoder to an update, with what the database receives. -/
def Kind.update (kind : Kind) (source : Source) (db : Database) : Response × List Sent :=
  use kind source fun enc s => ((enc.update s db).response, (enc.update s db).sent)

variable {source} (kind : Kind) (db : Database)

/-- A query with a statement: its first failure is answered, or else all of its rows. -/
theorem Kind.query_of_statement (hkind : kind ≠ .exec) {sql : String}
    (hsql : source.statement = .ok sql) :
    (kind.query source db).2 = db.sentChecked sql ∧
      (∀ e, db.firstFailure? kind.refuse = some e → (kind.query source db).1 = failure e) ∧
      (db.firstFailure? kind.refuse = none →
        kind.Answers db.rows.length (kind.query source db).1) := by
  cases kind with
  | list => exact (refusesByWidth_list source).query hsql db
  | single => exact (refusesByWidth_single source).query hsql db
  | csv => exact (refusesByWidth_csv source).query hsql db
  | exec => exact absurd rfl hkind

/-- An encoder that has no statement does not reach the database with a query. -/
theorem query_of_statement_error {σ : Type} (enc : Encoder σ) {s : σ} {e : RequestFailure}
    (hsql : enc.statement s = .error e) (hfail : ∀ t, (enc.fail e t).1 = failure e)
    (db : Database) : (enc.query s db).response = failure e ∧ (enc.query s db).sent = [] := by
  rw [Encoder.query, stream_of_statement_error hsql]
  exact ⟨hfail _, rfl⟩

/-- A query without a statement does not reach the database. -/
theorem Kind.query_of_no_statement {e : RequestFailure} (hsql : source.statement = .error e) :
    (kind.query source db).1 = failure e ∧ (kind.query source db).2 = [] := by
  cases kind with
  | list => exact query_of_statement_error (Encoder.list source) hsql (fun _ => rfl) db
  | single => exact query_of_statement_error (Encoder.single source) hsql (fun _ => rfl) db
  | csv => exact query_of_statement_error (Encoder.csv source) hsql (fun _ => rfl) db
  | exec => exact query_of_statement_error (Encoder.exec source) hsql (fun _ => rfl) db

/-- An update without a statement does not reach the database. -/
theorem update_of_no_statement {e : RequestFailure} (hsql : source.statement = .error e) :
    (Kind.exec.update source db).1 = failure e ∧ (Kind.exec.update source db).2 = [] := by
  have hstatement : (exec source).statement (0, 0) = .error e := hsql
  rw [Kind.update, use, Encoder.update, execute_of_statement_error hstatement]
  exact ⟨rfl, rfl⟩

/-- The summary of an update with a statement. -/
theorem update_of_statement {sql : String} (hsql : source.statement = .ok sql) :
    (Kind.exec.update source db).2 = db.sentUnchecked sql ∧
      (∀ e, db.change = .error e → (Kind.exec.update source db).1 = failure (.database e)) ∧
      (∀ rows, db.change = .ok rows → (Kind.exec.update source db).1.status = 200) := by
  have hstatement : (exec source).statement (0, 0) = .ok sql := hsql
  rw [Kind.update, use, Encoder.update]
  cases hchange : db.change with
  | error e =>
    rw [execute_of_change_error hstatement hchange]
    exact ⟨rfl, by rintro _ ⟨⟩; rfl, by simp⟩
  | ok rows =>
    rw [execute_of_change hstatement hchange]
    exact ⟨(db.sentUnchecked_of_change sql hchange).symm, by simp, fun _ _ => rfl⟩

end Encoder

namespace Endpoint

/-! ## What is asked of an endpoint -/

/-- The failure of the first rule that refuses the value of its parameter. -/
def refusal? (e : Endpoint) (c : Context) : Option ParameterFailure :=
  e.rules.findSome? fun rule =>
    match rule.check (c.param rule.name) with
    | .error failure => some failure
    | .ok () => none

/-- What the database receives of a statement. -/
def sentFor (e : Endpoint) (db : Database) (sql : String) : List Sent :=
  match e.statementKind with
  | .query => db.sentChecked sql
  | .update => db.sentUnchecked sql

/-- The first failure of a statement: of connecting, of preparing, of delivering rows or of
encoding one of them for a query, and of connecting or running for an update. -/
def runFailure? (e : Endpoint) (db : Database) (c : Context) : Option RequestFailure :=
  match e.statementKind with
  | .query => db.firstFailure? (e.encoderKind c).refuse
  | .update =>
    match db.change with
    | .error failure => some (.database failure)
    | .ok _ => none

/-- Whether the answer lacks a row that its encoder needs. -/
def LacksRows (e : Endpoint) (db : Database) (c : Context) : Prop :=
  (e.encoderKind c = .list ∨ e.encoderKind c = .single) ∧ db.rows = []

/-- How a statement is answered, with what the database receives. -/
structure Answered (e : Endpoint) (db : Database) (c : Context) (sql : String)
    (response : Response) (sent : List Sent) : Prop where
  sent_eq : sent = e.sentFor db sql
  run_once : sent.count (.run sql) ≤ 1
  failed : ∀ failure, e.runFailure? db c = some failure →
    response.IsEnvelope 500 failure.message
  not_found : e.runFailure? db c = none → e.LacksRows db c →
    response.status = 404 ∧ response.body = Utf8.ofString "\x7b\"found\": false\x7d"
  found : e.runFailure? db c = none → ¬ e.LacksRows db c → response.status = 200

/-- How a request is answered, with what the database receives. -/
structure Contract (e : Endpoint) (db : Database) (request : Request)
    (response : Response) (sent : List Sent) : Prop where
  unreadable : ∀ failure, e.context request = .error failure →
    response.IsEnvelope 400 failure.message ∧ sent = []
  refused : ∀ c, e.context request = .ok c → ∀ failure, e.refusal? c = some failure →
    response.IsEnvelope 400 failure.message ∧ sent = []
  unrendered : ∀ c, e.context request = .ok c → e.refusal? c = none →
    ∀ failure, e.template.render c.lookups = .error failure →
      response.IsEnvelope 500 (RenderFailure.template e.template.name failure).message ∧ sent = []
  answered : ∀ c, e.context request = .ok c → e.refusal? c = none →
    ∀ text, e.template.render c.lookups = .ok text →
      e.Answered db c (e.layout.apply text) response sent

/-! ## The handler -/

/-- Validation fails with the first rule that refuses its parameter. -/
theorem validate_eq (e : Endpoint) (c : Context) :
    e.validate c = match e.refusal? c with
      | some failure => .error failure
      | none => .ok () := by
  unfold validate refusal?
  induction e.rules with
  | nil => rfl
  | cons rule rules ih =>
    rw [List.forM_eq_forM] at ih ⊢
    rw [List.forM_cons, List.findSome?_cons]
    cases rule.check (c.param rule.name) with
    | error failure => rfl
    | ok _ => exact ih

variable {e : Endpoint} {db : Database} {request : Request} {c : Context}

/-- Values cannot be built only because of the body. -/
theorem exists_badRequest {failure : RequestFailure}
    (hcontext : e.context request = .error failure) : ∃ reason, failure = .badRequest reason := by
  unfold context at hcontext
  cases hbody : Context.bodyFields request.body with
  | error reason =>
    rw [hbody] at hcontext
    exact ⟨reason, (Except.error.inj hcontext).symm⟩
  | ok fields =>
    rw [hbody] at hcontext
    nomatch hcontext

/-- A request that is not refused is answered by the chosen encoder. -/
theorem handle_of_accepted (hcontext : e.context request = .ok c)
    (haccepted : e.refusal? c = none) :
    e.handle db request = match e.statementKind with
      | .query => (e.encoderKind c).query (e.source c) db
      | .update => (e.encoderKind c).update (e.source c) db := by
  have hvalidate : e.validate c = .ok () := by rw [validate_eq, haccepted]
  rw [handle, hcontext]
  simp only [hvalidate]
  cases e.statementKind <;> cases e.encoderKind c <;> rfl

/-- An update is answered with a summary. -/
theorem encoderKind_of_update (hkind : e.statementKind = .update) (c : Context) :
    e.encoderKind c = .exec := by
  simp [encoderKind, hkind]

/-- A query is not answered with a summary. -/
theorem encoderKind_of_query (hkind : e.statementKind = .query) (c : Context) :
    e.encoderKind c ≠ .exec := by
  rw [encoderKind, hkind]
  cases c.flag "csv" <;> cases e.answerKind <;> simp

/-- A statement is run at most once. -/
theorem count_sentFor (e : Endpoint) (db : Database) (sql : String) :
    (e.sentFor db sql).count (.run sql) ≤ 1 := by
  unfold sentFor Database.sentChecked Database.sentUnchecked
  cases e.statementKind with
  | query =>
    cases db.connect with
    | error _ => simp
    | ok script => cases hdescribe : script.describe <;> simp [hdescribe]
  | update => cases db.connect <;> simp

/-- The encoders that need rows are those for lists and for single rows. -/
theorem lacksRows_iff (e : Endpoint) (db : Database) (c : Context) :
    e.LacksRows db c ↔ (e.encoderKind c).needsRows = true ∧ db.rows.length = 0 := by
  rw [LacksRows, List.length_eq_zero_iff]
  cases e.encoderKind c <;> simp [Encoder.Kind.needsRows]

/-- A query with a statement is answered as its failure or its rows demand. -/
theorem answered_of_query (hkind : e.statementKind = .query) {sql : String}
    (hsql : (e.source c).statement = .ok sql) :
    e.Answered db c sql ((e.encoderKind c).query (e.source c) db).1
      ((e.encoderKind c).query (e.source c) db).2 := by
  obtain ⟨hsent, hfailed, hanswers⟩ :=
    Encoder.Kind.query_of_statement (e.encoderKind c) db (encoderKind_of_query hkind c) hsql
  have hsentFor : e.sentFor db sql = db.sentChecked sql := by rw [sentFor, hkind]
  have hfailure : e.runFailure? db c = db.firstFailure? (e.encoderKind c).refuse := by
    rw [runFailure?, hkind]
  have hlacksRows := e.lacksRows_iff db c
  rw [Encoder.Kind.Answers, ← hfailure] at hanswers
  rw [← hfailure] at hfailed
  rw [← hsentFor] at hsent
  refine ⟨hsent, ?_, fun failure hf => ?_, fun hnone hlacks => ?_, fun hnone hrows => ?_⟩
  · rw [hsent]
    exact count_sentFor e db sql
  · rw [hfailed failure hf]
    exact Response.isEnvelope_envelope 500 failure.message
  · have hanswer := hanswers hnone
    rw [if_pos (hlacksRows.mp hlacks)] at hanswer
    rw [hanswer]
    exact ⟨rfl, rfl⟩
  · have hanswer := hanswers hnone
    rwa [if_neg (mt hlacksRows.mpr hrows)] at hanswer

/-- An update with a statement is answered as the database demands. -/
theorem answered_of_update (hkind : e.statementKind = .update) {sql : String}
    (hsql : (e.source c).statement = .ok sql) :
    e.Answered db c sql ((e.encoderKind c).update (e.source c) db).1
      ((e.encoderKind c).update (e.source c) db).2 := by
  obtain ⟨hsent, hfailed, hchanged⟩ := Encoder.update_of_statement db hsql
  have hexec := encoderKind_of_update hkind c
  have hsentFor : e.sentFor db sql = db.sentUnchecked sql := by rw [sentFor, hkind]
  have hrows : ¬ e.LacksRows db c := by
    rw [lacksRows_iff, hexec]
    simp [Encoder.Kind.needsRows]
  rw [hexec]
  rw [← hsentFor] at hsent
  refine ⟨hsent, ?_, fun failure hf => ?_, fun _ hlacks => absurd hlacks hrows, fun hnone _ => ?_⟩
  · rw [hsent]
    exact count_sentFor e db sql
  · rw [runFailure?, hkind] at hf
    cases hchange : db.change with
    | error d =>
      rw [hchange] at hf
      obtain rfl := Option.some.inj hf
      rw [hfailed d hchange]
      exact Response.isEnvelope_envelope 500 _
    | ok rows => simp [hchange] at hf
  · rw [runFailure?, hkind] at hnone
    cases hchange : db.change with
    | error d => simp [hchange] at hnone
    | ok rows => exact hchanged rows hchange

/-- **The contract of endpoints.** Whatever the endpoint, the request and the database are,
the handler refuses the request, reports that there is no statement, or answers the
statement; it never runs a statement twice, and the answer to a failure holds its message
and nothing else, however much of the result had been encoded before. -/
theorem handle_contract (e : Endpoint) (db : Database) (request : Request) :
    e.Contract db request (e.handle db request).1 (e.handle db request).2 := by
  refine ⟨fun failure hcontext => ?_, fun c hcontext failure hrefused => ?_,
    fun c hcontext haccepted failure hrender => ?_, fun c hcontext haccepted text hrender => ?_⟩
  · obtain ⟨reason, rfl⟩ := exists_badRequest hcontext
    rw [handle, hcontext]
    exact ⟨Response.isEnvelope_envelope 400 reason.message, rfl⟩
  · have hvalidate : e.validate c = .error failure := by rw [validate_eq, hrefused]
    have hhandle : e.handle db request = (.ofFailure (.parameter failure), []) := by
      simp [handle, hcontext, hvalidate]
    rw [hhandle]
    exact ⟨Response.isEnvelope_envelope 400 failure.message, rfl⟩
  · have hsql : (e.source c).statement =
        .error (.render (.template e.template.name failure)) := by
      simp [source, statement, hrender]
    rw [handle_of_accepted hcontext haccepted]
    cases hkind : e.statementKind with
    | query =>
      obtain ⟨hresponse, hsent⟩ :=
        Encoder.Kind.query_of_no_statement (e.encoderKind c) db hsql
      simp only [hresponse, hsent, and_true]
      exact Response.isEnvelope_envelope 500 _
    | update =>
      obtain ⟨hresponse, hsent⟩ := Encoder.update_of_no_statement db hsql
      rw [encoderKind_of_update hkind c]
      simp only [hresponse, hsent, and_true]
      exact Response.isEnvelope_envelope 500 _
  · have hsql : (e.source c).statement = .ok (e.layout.apply text) := by
      simp [source, statement, hrender]
    rw [handle_of_accepted hcontext haccepted]
    cases hkind : e.statementKind with
    | query => exact answered_of_query hkind hsql
    | update => exact answered_of_update hkind hsql

end Endpoint

end QueryGateway
