import QueryGateway.Proofs.Database.Feeding
import QueryGateway.Proofs.Database.Protocol

/-!
# Buffers that rows share

The executor hands each row over in the buffers of the row before it, which may have been
more or fewer and may have held other bytes. No encoder can tell: the buffers of a row depend
on its own cells only, so that a run is the same as one that makes new buffers for every row.
-/

namespace QueryGateway

/-! ## The buffers of one row -/

/-- New buffers for a row: the bytes of each cell, and nothing for null. -/
def newBuffers (cells : List (Option Bytes)) : List Bytes :=
  cells.map (·.getD [])

/-- Nothing of what a buffer held before stays in it. -/
@[simp] theorem fillBuffer_eq (buffer : Bytes) (cell : Option Bytes) :
    fillBuffer buffer cell = cell.getD [] := by
  simp [fillBuffer]

/-- Filled buffers are as good as new, whatever buffers the row before it left. -/
theorem fillBuffers_eq_newBuffers (buffers : List Bytes) (cells : List (Option Bytes)) :
    fillBuffers buffers cells = newBuffers cells := by
  unfold newBuffers
  induction cells generalizing buffers with
  | nil => cases buffers <;> rfl
  | cons cell cells ih => cases buffers <;> simp [fillBuffers, ih]

/-- Buffers that hold a row and nothing else: one for each cell, with just its bytes, which
are none for null. -/
structure HoldRow (buffers : List Bytes) (cells : List (Option Bytes)) : Prop where
  width : buffers.length = cells.length
  bytes : ∀ (i : Nat) (b : Bytes), cells[i]? = some (some b) → buffers[i]? = some b
  null : ∀ i : Nat, cells[i]? = some none → buffers[i]? = some []

theorem holdRow_newBuffers (cells : List (Option Bytes)) : HoldRow (newBuffers cells) cells where
  width := List.length_map _
  bytes i b hcell := by simp [newBuffers, hcell]
  null i hcell := by simp [newBuffers, hcell]

/-! ## The rows of a run -/

namespace Delivery

/-- The new buffers of a delivered row. -/
def newBuffers? : Delivery → Option (List Bytes)
  | .ok cells => some (newBuffers cells)
  | .error _ => none

end Delivery

/-- The rows among the deliveries are those of the results. -/
theorem Script.filterMap_deliveries (script : Script) :
    script.deliveries.filterMap Delivery.newBuffers? =
      (script.results.flatMap ResultSet.rows).map newBuffers := by
  have hresult (r : ResultSet) :
      r.deliveries.filterMap Delivery.newBuffers? = r.rows.map newBuffers := by
    have hrows : (r.rows.map .ok).filterMap Delivery.newBuffers? = r.rows.map newBuffers := by
      rw [List.filterMap_map, ← List.filterMap_eq_map]
      rfl
    rw [ResultSet.deliveries, List.filterMap_append, hrows]
    cases r.error <;> simp [Delivery.newBuffers?]
  rw [deliveries, List.filterMap_flatMap, List.map_flatMap]
  simp only [hresult]

namespace Database

/-- The rows that a database delivers, each in new buffers. -/
def bufferedRows (db : Database) : List (List Bytes) :=
  db.rows.map newBuffers

theorem filterMap_deliveries {db : Database} {script : Script} {cs : List Column}
    (hprepare : db.prepare = .ok (script, cs)) :
    script.deliveries.filterMap Delivery.newBuffers? = db.bufferedRows := by
  rw [bufferedRows, rows, (prepare_eq_ok_iff.mp hprepare).1]
  exact script.filterMap_deliveries

end Database

/-- The buffers of a call that hands over a row. -/
def Call.buffers? : Call → Option (List Bytes)
  | row values _ => some values
  | _ => none

namespace Encoder

variable {σ : Type}

/-- Feeds rows to an encoder, each in new buffers. -/
def feedNew (enc : Encoder σ) (s : σ) : List Delivery → Except RequestFailure Unit × σ
  | [] => (.ok (), s)
  | .error e :: _ => (.error (.database e), s)
  | .ok cells :: rest =>
    match enc.row (newBuffers cells) s with
    | (.ok (), s) => enc.feedNew s rest
    | (.error e, s) => (.error e, s)

/-- A query whose rows all reach the encoder in new buffers. -/
def streamNew (enc : Encoder σ) (s : σ) (db : Database) : Run σ :=
  match enc.statement s with
  | .error e => ⟨[], .error e, enc.asked s⟩
  | .ok sql =>
    match db.prepare with
    | .error e => ⟨db.sentUnprepared sql, .error (.database e), enc.asked s⟩
    | .ok (script, columns) =>
      match enc.columns columns (enc.asked s) with
      | (.error e, t) => ⟨[.prepare sql], .error e, t⟩
      | (.ok (), t) =>
        let (outcome, u) := enc.feedNew t script.deliveries
        ⟨[.prepare sql, .run sql], outcome, u⟩

/-- The rows that an encoder is handed when a query is answered. -/
def handedRows (enc : Encoder σ) (s : σ) (db : Database) : List (List Bytes) :=
  (enc.queryCalls s db).filterMap Call.buffers?

variable (enc : Encoder σ)

/-- Whatever the first buffers hold, feeding is as with new buffers for each row. -/
theorem feed_eq_feedNew (buffers : List Bytes) (s : σ) (ds : List Delivery) :
    enc.feed buffers s ds = enc.feedNew s ds := by
  induction ds generalizing buffers s with
  | nil => rfl
  | cons d ds ih =>
    rcases d with e | cells
    · rfl
    · rw [feed, feedNew, fillBuffers_eq_newBuffers]
      rcases enc.row (newBuffers cells) s with ⟨e | ⟨⟩, t⟩
      · rfl
      · exact ih (newBuffers cells) t

/-- A query is as one whose rows all have new buffers. -/
theorem stream_eq_streamNew (s : σ) (db : Database) : enc.stream s db = enc.streamNew s db := by
  unfold streamNew
  cases hsql : enc.statement s with
  | error e => exact stream_of_statement_error hsql
  | ok sql =>
    cases hprepare : db.prepare with
    | error e => exact stream_of_prepare_error hsql hprepare
    | ok prepared =>
      obtain ⟨script, cs⟩ := prepared
      rcases hcolumns : enc.columns cs (enc.asked s) with ⟨e | ⟨⟩, t⟩
      · rw [stream_of_columns_error hsql hprepare hcolumns]
        simp only [hcolumns]
      · rw [stream_of_columns hsql hprepare hcolumns, feed_eq_feedNew]
        simp only [hcolumns]

/-- Feeding hands over the delivered rows from the first one on, and all of them unless it
fails. -/
theorem buffers_noting_feedNew (s : σ) (log : List Call) (ds : List Delivery) :
    ∃ rows : List (List Bytes),
      (enc.noting.feedNew (s, log) ds).2.2.filterMap Call.buffers? =
        log.filterMap Call.buffers? ++ rows ∧
      rows <+: ds.filterMap Delivery.newBuffers? ∧
      ((enc.noting.feedNew (s, log) ds).1 = .ok () →
        rows = ds.filterMap Delivery.newBuffers?) := by
  induction ds generalizing s log with
  | nil => exact ⟨[], by simp [feedNew]⟩
  | cons d ds ih =>
    rcases d with e | cells
    · exact ⟨[], by simp [feedNew]⟩
    · rcases hrow : enc.row (newBuffers cells) s with ⟨e | ⟨⟩, t⟩
      · refine ⟨[newBuffers cells], ?_, ?_, ?_⟩
        · simp [feedNew, noting_row hrow, Call.buffers?]
        · simp [Delivery.newBuffers?]
        · simp [feedNew, noting_row hrow]
      · obtain ⟨rows, hlog, hfront, hall⟩ := ih t (log ++ [.row (newBuffers cells) (.ok ())])
        refine ⟨newBuffers cells :: rows, ?_, ?_, ?_⟩
        · simp [feedNew, noting_row hrow, hlog, Call.buffers?]
        · simpa [Delivery.newBuffers?] using hfront
        · simpa [feedNew, noting_row hrow, Delivery.newBuffers?] using hall

/-- The call that asks for the response hands over no row. -/
theorem handedRows_eq (s : σ) (db : Database) :
    enc.handedRows s db =
      (enc.noting.streamNew (s, []) db).state.2.filterMap Call.buffers? := by
  have hrespond (run : Run (σ × List Call)) :
      (enc.noting.respond run).state.2.filterMap Call.buffers? =
        run.state.2.filterMap Call.buffers? := by
    obtain ⟨sent, outcome, t, log⟩ := run
    rw [noting_respond]
    cases outcome <;> simp [Call.closing, Call.buffers?]
  rw [handedRows, queryCalls, query, hrespond, stream_eq_streamNew]

/-- A query hands over the delivered rows from the first one on, and all of them unless it
fails. -/
theorem handedRows_isPrefix (s : σ) (db : Database) :
    enc.handedRows s db <+: db.bufferedRows ∧
      ((enc.stream s db).outcome = .ok () → enc.handedRows s db = db.bufferedRows) := by
  have hsame : (enc.noting.streamNew (s, []) db).outcome = (enc.stream s db).outcome := by
    obtain ⟨calls, _, _, _, hnoted⟩ := enc.noting_stream s db
    rw [← stream_eq_streamNew, hnoted]
  rw [handedRows_eq, ← hsame]
  unfold streamNew
  have hnoted : enc.noting.statement (s, []) = enc.statement s := rfl
  have hasked : enc.noting.asked (s, []) = (enc.asked s, [.statement (enc.statement s)]) := rfl
  rw [hnoted, hasked]
  cases hsql : enc.statement s with
  | error e => exact ⟨List.nil_prefix, nofun⟩
  | ok sql =>
    cases hprepare : db.prepare with
    | error e => exact ⟨List.nil_prefix, nofun⟩
    | ok prepared =>
      obtain ⟨script, cs⟩ := prepared
      rcases hcolumns : enc.columns cs (enc.asked s) with ⟨e | ⟨⟩, t⟩
      · simp only [noting_columns hcolumns]
        exact ⟨List.nil_prefix, nofun⟩
      · obtain ⟨rows, hlog, hfront, hall⟩ := enc.buffers_noting_feedNew t
          ([.statement (.ok sql)] ++ [.columns cs (.ok ())]) script.deliveries
        rw [Database.filterMap_deliveries hprepare] at hfront hall
        simp only [noting_columns hcolumns, hlog]
        exact ⟨hfront, hall⟩

/-- **Shared buffers are not observable.** Whatever the encoder and the database do, the rows
that the encoder is handed are those of the database in their order, and all of them unless
the query fails; each stands in as many buffers as it has cells, with the bytes of its cells
and nothing of an earlier row; and the run is the same as with new buffers for every row. -/
theorem shared_buffers_unobservable (s : σ) (db : Database) :
    (∀ (k : Nat) (buffers : List Bytes), (enc.handedRows s db)[k]? = some buffers →
      ∃ cells, db.rows[k]? = some cells ∧ HoldRow buffers cells) ∧
    ((enc.stream s db).outcome = .ok () →
      (enc.handedRows s db).length = db.rows.length) ∧
    enc.stream s db = enc.streamNew s db := by
  obtain ⟨hfront, hall⟩ := enc.handedRows_isPrefix s db
  refine ⟨fun k buffers hk => ?_, fun hok => ?_, enc.stream_eq_streamNew s db⟩
  · obtain ⟨hlt, rfl⟩ := List.getElem?_eq_some_iff.mp hk
    have hrow : (db.rows.map newBuffers)[k]? = some (enc.handedRows s db)[k] :=
      List.prefix_iff_getElem?.mp hfront k hlt
    rw [List.getElem?_map, Option.map_eq_some_iff] at hrow
    obtain ⟨cells, hcells, hbuffers⟩ := hrow
    rw [← hbuffers]
    exact ⟨cells, hcells, holdRow_newBuffers cells⟩
  · rw [hall hok, Database.bufferedRows, List.length_map]

end Encoder

end QueryGateway
