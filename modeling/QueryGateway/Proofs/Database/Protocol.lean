import QueryGateway.Proofs.Database.Stages

/-!
# The calls of an encoder

The executor promises each encoder an order of calls. An encoder that notes its
calls makes that order visible: noting changes no answer, and the notes of a run
of the executor are exactly the calls that it makes.
-/

namespace QueryGateway

/-- A call of an encoder, with its outcome if it has one. -/
inductive Call where
  | statement (outcome : Except RequestFailure String)
  | columns (columns : List Column) (outcome : Except RequestFailure Unit)
  | row (values : List Bytes) (outcome : Except RequestFailure Unit)
  | affected (lastId : Int) (rows : Nat)
  | fail (e : RequestFailure)
  | finish

namespace Call

/-- The failure that an encoder reports when it is called. -/
def failure? : Call → Option RequestFailure
  | statement outcome => failureOf outcome
  | columns _ outcome => failureOf outcome
  | row _ outcome => failureOf outcome
  | _ => none

/-- Whether a call hands over a row. -/
def isRow : Call → Bool
  | row .. => true
  | _ => false

/-- Whether a call asks for the response. -/
def isClosing : Call → Bool
  | fail _ => true
  | finish => true
  | _ => false

/-- The call that asks for the response when a step failed, or when none did. -/
def closing : Option RequestFailure → Call
  | some e => fail e
  | none => finish

/-- The closing call asks for the response. -/
@[simp] theorem isClosing_closing (failure : Option RequestFailure) :
    (closing failure).isClosing = true := by
  cases failure <;> rfl

/-- No call follows one that failed. -/
def StopAtFailure (calls : List Call) : Prop :=
  ∀ c ∈ calls.dropLast, c.failure? = none

/-- A single call may fail. -/
theorem stopAtFailure_singleton (c : Call) : StopAtFailure [c] := by
  simp [StopAtFailure]

/-- Calls may follow one that has not failed. -/
theorem StopAtFailure.cons {c : Call} {calls : List Call} (hc : c.failure? = none)
    (hcalls : StopAtFailure calls) : StopAtFailure (c :: calls) := by
  rcases calls with _ | ⟨d, calls⟩
  · exact stopAtFailure_singleton c
  · intro other hother
    rw [List.dropLast_cons_of_ne_nil (List.cons_ne_nil d calls)] at hother
    rcases List.mem_cons.mp hother with rfl | hother
    · exact hc
    · exact hcalls other hother

end Call

namespace Database

/-- The failure of a database at a query of which it has delivered some rows: it
does not prepare the statement, or the rows end in a failure. -/
def queryFailure? (db : Database) (delivered : Nat) : Option RequestFailure :=
  match db.prepare with
  | .error e => some (.database e)
  | .ok (script, _) => script.deliveries[delivered]?.bind Delivery.failure?

/-- The failure of a query after some calls: one that the encoder has reported, or
else that of the database once it has delivered the rows which were handed over. -/
def failureAfter? (db : Database) (calls : List Call) : Option RequestFailure :=
  (calls.findSome? Call.failure?).or (db.queryFailure? (calls.countP Call.isRow))

end Database

namespace Encoder

variable {σ : Type}

/-- An encoder that answers as the given one and notes its calls. -/
def noting (enc : Encoder σ) : Encoder (σ × List Call) where
  statement s := enc.statement s.1
  asked s := (enc.asked s.1, s.2 ++ [.statement (enc.statement s.1)])
  columns cs s :=
    let (outcome, t) := enc.columns cs s.1
    (outcome, t, s.2 ++ [.columns cs outcome])
  row values s :=
    let (outcome, t) := enc.row values s.1
    (outcome, t, s.2 ++ [.row values outcome])
  affected lastId rows s := (enc.affected lastId rows s.1, s.2 ++ [.affected lastId rows])
  fail e s :=
    let (response, t) := enc.fail e s.1
    (response, t, s.2 ++ [.fail e])
  finish s :=
    let (response, t) := enc.finish s.1
    (response, t, s.2 ++ [.finish])

/-- The calls that an encoder receives when a query is answered. -/
def queryCalls (enc : Encoder σ) (s : σ) (db : Database) : List Call :=
  (enc.noting.query (s, []) db).state.2

/-- The calls that an encoder receives when a statement that changes the database is
answered. -/
def updateCalls (enc : Encoder σ) (s : σ) (db : Database) : List Call :=
  (enc.noting.update (s, []) db).state.2

variable {enc : Encoder σ} {s t : σ} {outcome : Except RequestFailure Unit}

/-- The columns are noted with what the encoder makes of them. -/
theorem noting_columns {cs : List Column} (hcolumns : enc.columns cs s = (outcome, t))
    (log : List Call) :
    enc.noting.columns cs (s, log) = (outcome, t, log ++ [.columns cs outcome]) := by
  simp [noting, hcolumns]

/-- A row is noted with what the encoder makes of it. -/
theorem noting_row {values : List Bytes} (hrow : enc.row values s = (outcome, t))
    (log : List Call) :
    enc.noting.row values (s, log) = (outcome, t, log ++ [.row values outcome]) := by
  simp [noting, hrow]

/-! ## The order of the calls -/

/-- What is handed over of some deliveries: rows only, up to the first failure of either
side, and all of them if there is none. -/
structure HandsOver (ds : List Delivery) (calls : List Call)
    (outcome : Except RequestFailure Unit) : Prop where
  isRow : ∀ c ∈ calls, c.isRow = true
  stop : Call.StopAtFailure calls
  delivered : ∀ d ∈ ds.take calls.length, d.failure? = none
  failure : failureOf outcome =
    (calls.findSome? Call.failure?).or (ds[calls.length]?.bind Delivery.failure?)
  all : outcome = .ok () → calls.length = ds.length

/-- The calls of a query before the one that closes it. Without a prepared statement they
are that for the statement alone. With one the columns are told, also when there are no
rows, and then rows are handed over, all of them if nothing fails. -/
inductive QueryCourse (enc : Encoder σ) (s : σ) (db : Database) : List Call → Prop where
  | unprepared
      (hunprepared : (∃ e, enc.statement s = .error e) ∨ ∃ e, db.prepare = .error e) :
      QueryCourse enc s db [.statement (enc.statement s)]
  | prepared {sql : String} {script : Script} {cs : List Column}
      {told : Except RequestFailure Unit} {rows : List Call}
      (hsql : enc.statement s = .ok sql) (hprepare : db.prepare = .ok (script, cs))
      (hrows : ∀ c ∈ rows, c.isRow = true)
      (hdelivered : ∀ d ∈ script.deliveries.take rows.length, d.failure? = none)
      (hall : db.failureAfter? (.statement (.ok sql) :: .columns cs told :: rows) = none →
        rows.length = script.deliveries.length) :
      QueryCourse enc s db (.statement (.ok sql) :: .columns cs told :: rows)

/-- The calls of an update: the statement, then the affected rows and the end, or a
failure. -/
inductive UpdateCourse (enc : Encoder σ) (s : σ) (db : Database) : List Call → Prop where
  | carriedOut {sql : String} {rows : Nat} (hsql : enc.statement s = .ok sql)
      (hchange : db.change = .ok rows) :
      UpdateCourse enc s db [.statement (.ok sql), .affected 0 rows, .finish]
  | withoutStatement {e : RequestFailure} (hsql : enc.statement s = .error e) :
      UpdateCourse enc s db [.statement (.error e), .fail e]
  | failed {sql : String} {e : DatabaseFailure} (hsql : enc.statement s = .ok sql)
      (hchange : db.change = .error e) :
      UpdateCourse enc s db [.statement (.ok sql), .fail (.database e)]

/-- Nothing is handed over of no deliveries, or of those that begin with a failure. -/
theorem handsOver_nil {ds : List Delivery}
    (hfailure : failureOf outcome = ds[0]?.bind Delivery.failure?)
    (hall : outcome = .ok () → ds = []) : HandsOver ds [] outcome where
  isRow := by simp
  stop := by simp [Call.StopAtFailure]
  delivered := by simp
  failure := hfailure
  all hok := by simp [hall hok]

/-- A row that the encoder takes stands before what is handed over of the rest. -/
theorem HandsOver.cons {ds : List Delivery} {calls : List Call} (values : List Bytes)
    (cells : List (Option Bytes)) (h : HandsOver ds calls outcome) :
    HandsOver (.ok cells :: ds) (.row values (.ok ()) :: calls) outcome where
  isRow := by simpa [Call.isRow] using h.isRow
  stop := h.stop.cons rfl
  delivered := by simpa [Delivery.failure?] using h.delivered
  failure := by simp [h.failure, List.findSome?_cons, Call.failure?]
  all hok := by simp [h.all hok]

/-- Feeding hands over rows. -/
theorem noting_feed (enc : Encoder σ) (buffers : List Bytes) (s : σ) (log : List Call)
    (ds : List Delivery) :
    ∃ rows : List Call, HandsOver ds rows (enc.feed buffers s ds).1 ∧
      enc.noting.feed buffers (s, log) ds =
        ((enc.feed buffers s ds).1, (enc.feed buffers s ds).2, log ++ rows) := by
  induction ds generalizing buffers s log with
  | nil => exact ⟨[], handsOver_nil rfl fun _ => rfl, by simp [feed]⟩
  | cons d ds ih =>
    rcases d with e | cells
    · exact ⟨[], handsOver_nil rfl (by simp [feed]), by simp [feed]⟩
    · rcases hrow : enc.row (fillBuffers buffers cells) s with ⟨e | ⟨⟩, t⟩
      · refine ⟨[.row (fillBuffers buffers cells) (.error e)],
          ⟨by simp [Call.isRow], Call.stopAtFailure_singleton _, ?_, ?_, ?_⟩, ?_⟩
        · simp [Delivery.failure?]
        · simp [feed, hrow, Call.failure?]
        · simp [feed, hrow]
        · simp [feed, noting_row hrow, hrow]
      · obtain ⟨rows, hrows, hlog⟩ := ih (fillBuffers buffers cells) t
          (log ++ [.row (fillBuffers buffers cells) (.ok ())])
        have hfeed : enc.feed buffers s (.ok cells :: ds) =
            enc.feed (fillBuffers buffers cells) t ds := by
          simp [feed, hrow]
        refine ⟨.row (fillBuffers buffers cells) (.ok ()) :: rows, ?_, ?_⟩
        · rw [hfeed]
          exact hrows.cons _ cells
        · rw [hfeed]
          simp [feed, noting_row hrow, hlog]

/-- A query takes its course, and its outcome is the first failure of either side. -/
theorem noting_stream (enc : Encoder σ) (s : σ) (db : Database) :
    ∃ calls : List Call, enc.QueryCourse s db calls ∧ Call.StopAtFailure calls ∧
      failureOf (enc.stream s db).outcome = db.failureAfter? calls ∧
      enc.noting.stream (s, []) db =
        ⟨(enc.stream s db).sent, (enc.stream s db).outcome, ((enc.stream s db).state, calls)⟩ := by
  have hnoted : enc.noting.statement (s, []) = enc.statement s := rfl
  have hasked : enc.noting.asked (s, []) = (enc.asked s, [.statement (enc.statement s)]) := rfl
  cases hsql : enc.statement s with
  | error e =>
    rw [stream_of_statement_error hsql, stream_of_statement_error (hnoted.trans hsql), hasked]
    refine ⟨_, .unprepared (.inl ⟨e, hsql⟩), Call.stopAtFailure_singleton _, ?_, rfl⟩
    rw [hsql]
    rfl
  | ok sql =>
    cases hprepare : db.prepare with
    | error e =>
      rw [stream_of_prepare_error hsql hprepare,
        stream_of_prepare_error (hnoted.trans hsql) hprepare, hasked]
      refine ⟨_, .unprepared (.inr ⟨e, hprepare⟩), Call.stopAtFailure_singleton _, ?_, rfl⟩
      simp [Database.failureAfter?, Database.queryFailure?, hsql, hprepare, Call.failure?]
    | ok prepared =>
      obtain ⟨script, cs⟩ := prepared
      rw [hsql] at hasked
      rcases hcolumns : enc.columns cs (enc.asked s) with ⟨e | ⟨⟩, t⟩
      · have hnotedColumns := noting_columns hcolumns [.statement (.ok sql)]
        rw [← hasked] at hnotedColumns
        rw [stream_of_columns_error hsql hprepare hcolumns,
          stream_of_columns_error (hnoted.trans hsql) hprepare hnotedColumns]
        refine ⟨[.statement (.ok sql), .columns cs (.error e)],
          .prepared hsql hprepare (by simp) (by simp) ?_,
          (Call.stopAtFailure_singleton _).cons rfl, rfl, rfl⟩
        rintro ⟨⟩
      · have hnotedColumns := noting_columns hcolumns [.statement (.ok sql)]
        rw [← hasked] at hnotedColumns
        obtain ⟨rows, hrows, hlog⟩ := enc.noting_feed (cs.map fun _ => []) t
          ([.statement (.ok sql)] ++ [.columns cs (.ok ())]) script.deliveries
        have hnumber : rows.countP Call.isRow = rows.length := List.countP_eq_length.mpr hrows.isRow
        have hfailure : failureOf (enc.feed (cs.map fun _ => []) t script.deliveries).1 =
            db.failureAfter? (.statement (.ok sql) :: .columns cs (.ok ()) :: rows) := by
          rw [hrows.failure]
          simp [Database.failureAfter?, Database.queryFailure?, hprepare, List.findSome?_cons,
            Call.failure?, Call.isRow, hnumber]
        rw [stream_of_columns hsql hprepare hcolumns,
          stream_of_columns (hnoted.trans hsql) hprepare hnotedColumns, hlog]
        refine ⟨.statement (.ok sql) :: .columns cs (.ok ()) :: rows,
          .prepared hsql hprepare hrows.isRow hrows.delivered fun hnone => hrows.all ?_,
          (hrows.stop.cons rfl).cons rfl, hfailure, rfl⟩
        rw [← hfailure] at hnone
        exact failureOf_eq_none_iff.mp hnone

/-- An update takes its course. -/
theorem noting_execute (enc : Encoder σ) (s : σ) (db : Database) :
    ∃ calls : List Call,
      enc.UpdateCourse s db (calls ++ [.closing (failureOf (enc.execute s db).outcome)]) ∧
      enc.noting.execute (s, []) db =
        ⟨(enc.execute s db).sent, (enc.execute s db).outcome,
          ((enc.execute s db).state, calls)⟩ := by
  have hnoted : enc.noting.statement (s, []) = enc.statement s := rfl
  have hasked : enc.noting.asked (s, []) = (enc.asked s, [.statement (enc.statement s)]) := rfl
  cases hsql : enc.statement s with
  | error e =>
    rw [hsql] at hasked
    rw [execute_of_statement_error hsql, execute_of_statement_error (hnoted.trans hsql), hasked]
    exact ⟨_, .withoutStatement hsql, rfl⟩
  | ok sql =>
    rw [hsql] at hasked
    cases hchange : db.change with
    | error e =>
      rw [execute_of_change_error hsql hchange,
        execute_of_change_error (hnoted.trans hsql) hchange, hasked]
      exact ⟨_, .failed hsql hchange, rfl⟩
    | ok rows =>
      rw [execute_of_change hsql hchange, execute_of_change (hnoted.trans hsql) hchange, hasked]
      exact ⟨_, .carriedOut hsql hchange, rfl⟩

/-- The response is asked for by one call, according to the outcome of the run. -/
theorem noting_respond (enc : Encoder σ) (sent : List Sent) (outcome : Except RequestFailure Unit)
    (t : σ) (log : List Call) :
    enc.noting.respond ⟨sent, outcome, (t, log)⟩ =
      ⟨(enc.respond ⟨sent, outcome, t⟩).response, sent,
        ((enc.respond ⟨sent, outcome, t⟩).state, log ++ [.closing (failureOf outcome)])⟩ := by
  rcases outcome with e | ⟨⟩ <;> rfl

/-- Noting the calls changes neither the answer nor what the database receives. -/
theorem noting_query (enc : Encoder σ) (s : σ) (db : Database) :
    enc.noting.query (s, []) db =
      ⟨(enc.query s db).response, (enc.query s db).sent,
        ((enc.query s db).state, enc.queryCalls s db)⟩ := by
  obtain ⟨calls, _, _, _, hstream⟩ := enc.noting_stream s db
  simp only [queryCalls, query, hstream, noting_respond]
  rfl

/-- As for queries, noting the calls changes nothing else. -/
theorem noting_update (enc : Encoder σ) (s : σ) (db : Database) :
    enc.noting.update (s, []) db =
      ⟨(enc.update s db).response, (enc.update s db).sent,
        ((enc.update s db).state, enc.updateCalls s db)⟩ := by
  obtain ⟨calls, _, hexecute⟩ := enc.noting_execute s db
  simp only [updateCalls, update, hexecute, noting_respond]
  rfl

/-- The calls of a query are its course and the call that closes it. -/
theorem queryCalls_eq (enc : Encoder σ) (s : σ) (db : Database) :
    ∃ calls : List Call, enc.QueryCourse s db calls ∧ Call.StopAtFailure calls ∧
      enc.queryCalls s db = calls ++ [.closing (db.failureAfter? calls)] := by
  obtain ⟨calls, hcourse, hstop, hfailure, hstream⟩ := enc.noting_stream s db
  refine ⟨calls, hcourse, hstop, ?_⟩
  simp only [queryCalls, query, hstream, noting_respond, hfailure]

/-- The calls of an update are its course. -/
theorem updateCourse_updateCalls (enc : Encoder σ) (s : σ) (db : Database) :
    enc.UpdateCourse s db (enc.updateCalls s db) := by
  obtain ⟨calls, hcourse, hexecute⟩ := enc.noting_execute s db
  have hcalls : enc.updateCalls s db =
      calls ++ [.closing (failureOf (enc.execute s db).outcome)] := by
    simp only [updateCalls, update, hexecute, noting_respond]
  rw [hcalls]
  exact hcourse

/-- No call before the closing one asks for the response. -/
theorem QueryCourse.countP_isClosing {db : Database} {calls : List Call}
    (hcourse : enc.QueryCourse s db calls) : calls.countP Call.isClosing = 0 := by
  cases hcourse with
  | unprepared _ => rfl
  | prepared _ _ hrows _ _ =>
    rw [List.countP_eq_zero]
    intro c hc
    rcases List.mem_cons.mp hc with rfl | hc
    · simp [Call.isClosing]
    · rcases List.mem_cons.mp hc with rfl | hc
      · simp [Call.isClosing]
      · have hrow := hrows c hc
        cases c <;> simp_all [Call.isRow, Call.isClosing]

/-- A query is closed once: it never both fails and ends, and never fails twice. -/
theorem queryCalls_closed_once (enc : Encoder σ) (s : σ) (db : Database) :
    (enc.queryCalls s db).countP Call.isClosing = 1 := by
  obtain ⟨calls, hcourse, _, hcalls⟩ := enc.queryCalls_eq s db
  rw [hcalls, List.countP_append, hcourse.countP_isClosing]
  simp

/-- An update is closed once. -/
theorem UpdateCourse.countP_isClosing {db : Database} {calls : List Call}
    (hcourse : enc.UpdateCourse s db calls) : calls.countP Call.isClosing = 1 := by
  cases hcourse <;> rfl

/-- **The protocol of the executor.** Whatever the encoder and the database do, a query
asks for the statement once, tells the columns as soon as the statement is prepared, also
when there are no rows, and then hands over rows only. It stops at the first step that
fails and closes with exactly one call: for that failure, and if none failed, for the end,
which all rows precede. An update asks for the statement, and either tells the affected
rows and ends, or fails. -/
theorem executor_protocol (enc : Encoder σ) (s : σ) (db : Database) :
    (∃ calls : List Call, enc.QueryCourse s db calls ∧ Call.StopAtFailure calls ∧
      enc.queryCalls s db = calls ++ [.closing (db.failureAfter? calls)]) ∧
    (enc.queryCalls s db).countP Call.isClosing = 1 ∧
    enc.UpdateCourse s db (enc.updateCalls s db) ∧
    (enc.updateCalls s db).countP Call.isClosing = 1 :=
  ⟨enc.queryCalls_eq s db, enc.queryCalls_closed_once s db, enc.updateCourse_updateCalls s db,
    (enc.updateCourse_updateCalls s db).countP_isClosing⟩

end Encoder

end QueryGateway
