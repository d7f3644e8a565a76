import QueryGateway.Database.Executor

/-!
# Stages of a run

A query comes as far as its statement, the preparation of the statement, and the
rows. These lemmas say what a run is at each of these stages, so that later proofs
need not follow the branches of the executor.
-/

namespace QueryGateway

/-- The failure of an outcome. -/
def failureOf {α : Type} : Except RequestFailure α → Option RequestFailure
  | .error e => some e
  | .ok _ => none

@[simp] theorem failureOf_error {α : Type} (e : RequestFailure) :
    failureOf (.error e : Except RequestFailure α) = some e := rfl

@[simp] theorem failureOf_ok {α : Type} (a : α) :
    failureOf (.ok a : Except RequestFailure α) = none := rfl

/-- Only a success has no failure. -/
theorem failureOf_eq_none_iff {outcome : Except RequestFailure Unit} :
    failureOf outcome = none ↔ outcome = .ok () := by
  rcases outcome with e | ⟨⟩ <;> simp

/-- The failure that ends the rows. -/
def Delivery.failure? : Delivery → Option RequestFailure
  | .error e => some (.database e)
  | .ok _ => none

namespace Database

/-- The behaviour of a database that can be reached and can prepare the statement,
with the columns of the prepared statement. -/
def prepare (db : Database) : Except DatabaseFailure (Script × List Column) :=
  match db.connect with
  | .error e => .error e
  | .ok script =>
    match script.describe with
    | .error e => .error e
    | .ok columns => .ok (script, columns)

/-- The number of rows that a statement changes, unless the database fails. -/
def change (db : Database) : Except DatabaseFailure Nat :=
  match db.connect with
  | .error e => .error e
  | .ok script => script.affected

/-- What a database receives of a statement that it does not prepare successfully. -/
def sentUnprepared (db : Database) (sql : String) : List Sent :=
  match db.connect with
  | .error _ => []
  | .ok _ => [.prepare sql]

/-- What a database receives of a statement that is run at once. -/
def sentUnchecked (db : Database) (sql : String) : List Sent :=
  match db.connect with
  | .error _ => []
  | .ok _ => [.run sql]

/-- A statement is prepared by a database that is reached and describes its columns. -/
theorem prepare_eq_ok_iff {db : Database} {script : Script} {columns : List Column} :
    db.prepare = .ok (script, columns) ↔
      db.connect = .ok script ∧ script.describe = .ok columns := by
  unfold prepare
  constructor
  · intro hprepare
    split at hprepare
    · simp at hprepare
    · next reached hconnect =>
      split at hprepare
      · simp at hprepare
      · next described hdescribe =>
        simp only [Except.ok.injEq, Prod.mk.injEq] at hprepare
        obtain ⟨rfl, rfl⟩ := hprepare
        exact ⟨hconnect, hdescribe⟩
  · rintro ⟨hconnect, hdescribe⟩
    simp [hconnect, hdescribe]

end Database

namespace Encoder

variable {σ : Type} {enc : Encoder σ} {s : σ} {db : Database} {sql : String}

/-- A query without a statement ends at once. -/
theorem stream_of_statement_error {e : RequestFailure} (hsql : enc.statement s = .error e) :
    enc.stream s db = ⟨[], .error e, enc.asked s⟩ := by
  simp [stream, hsql]

/-- A query that the database does not prepare ends before the encoder knows columns. -/
theorem stream_of_prepare_error {e : DatabaseFailure} (hsql : enc.statement s = .ok sql)
    (hprepare : db.prepare = .error e) :
    enc.stream s db = ⟨db.sentUnprepared sql, .error (.database e), enc.asked s⟩ := by
  unfold Database.prepare at hprepare
  unfold stream Database.sentUnprepared
  cases hconnect : db.connect with
  | error f =>
    simp only [hconnect, Except.error.injEq] at hprepare
    simp [hsql, hprepare]
  | ok script =>
    cases hdescribe : script.describe with
    | error f =>
      simp only [hconnect, hdescribe, Except.error.injEq] at hprepare
      simp [hsql, hdescribe, hprepare]
    | ok columns => simp [hconnect, hdescribe] at hprepare

/-- A prepared query is not run when the encoder refuses the columns. -/
theorem stream_of_columns_error {script : Script} {columns : List Column} {e : RequestFailure}
    {t : σ} (hsql : enc.statement s = .ok sql) (hprepare : db.prepare = .ok (script, columns))
    (hcolumns : enc.columns columns (enc.asked s) = (.error e, t)) :
    enc.stream s db = ⟨[.prepare sql], .error e, t⟩ := by
  obtain ⟨hconnect, hdescribe⟩ := Database.prepare_eq_ok_iff.mp hprepare
  simp [stream, hsql, hconnect, hdescribe, hcolumns]

/-- A prepared query whose columns the encoder takes is run, and feeds the encoder. -/
theorem stream_of_columns {script : Script} {columns : List Column} {t : σ}
    (hsql : enc.statement s = .ok sql) (hprepare : db.prepare = .ok (script, columns))
    (hcolumns : enc.columns columns (enc.asked s) = (.ok (), t)) :
    enc.stream s db =
      ⟨[.prepare sql, .run sql],
        (enc.feed (columns.map fun _ => []) t script.deliveries).1,
        (enc.feed (columns.map fun _ => []) t script.deliveries).2⟩ := by
  obtain ⟨hconnect, hdescribe⟩ := Database.prepare_eq_ok_iff.mp hprepare
  simp [stream, hsql, hconnect, hdescribe, hcolumns]

/-- An update without a statement ends at once. -/
theorem execute_of_statement_error {e : RequestFailure} (hsql : enc.statement s = .error e) :
    enc.execute s db = ⟨[], .error e, enc.asked s⟩ := by
  simp [execute, hsql]

/-- An update that the database does not carry out leaves the encoder as it was asked. -/
theorem execute_of_change_error {e : DatabaseFailure} (hsql : enc.statement s = .ok sql)
    (hchange : db.change = .error e) :
    enc.execute s db = ⟨db.sentUnchecked sql, .error (.database e), enc.asked s⟩ := by
  unfold Database.change at hchange
  unfold execute Database.sentUnchecked
  cases hconnect : db.connect with
  | error f =>
    simp only [hconnect, Except.error.injEq] at hchange
    simp [hsql, hchange]
  | ok script =>
    simp only [hconnect] at hchange
    simp [hsql, hchange]

/-- An update that succeeds tells the encoder the number of affected rows. -/
theorem execute_of_change {rows : Nat} (hsql : enc.statement s = .ok sql)
    (hchange : db.change = .ok rows) :
    enc.execute s db = ⟨[.run sql], .ok (), enc.affected 0 rows (enc.asked s)⟩ := by
  unfold Database.change at hchange
  cases hconnect : db.connect with
  | error f => simp [hconnect] at hchange
  | ok script =>
    simp only [hconnect] at hchange
    simp [execute, hsql, hconnect, hchange]

end Encoder

end QueryGateway
