import QueryGateway.Proofs.Database.Stages

/-!
# Queries of encoders that refuse rows by their width

The encoders of the library take any columns, refuse a row at most because of its number
of cells, and answer according to the number of rows. For every such encoder, one
induction over the deliveries gives the first failure of a query and its answer.
-/

namespace QueryGateway

/-- The failure at a delivery: that of the database, or that of an encoder which refuses
rows by their number of cells. -/
def Delivery.refusal? (refuse : Nat → Option RequestFailure) : Delivery → Option RequestFailure
  | .error e => some (.database e)
  | .ok cells => refuse cells.length

namespace Database

/-- The first failure of a query: the database does not prepare the statement, or one of
the deliveries fails. -/
def firstFailure? (db : Database) (refuse : List Column → Nat → Option RequestFailure) :
    Option RequestFailure :=
  match db.prepare with
  | .error e => some (.database e)
  | .ok (script, columns) => script.deliveries.findSome? (Delivery.refusal? (refuse columns))

/-- The rows that a database delivers, failures apart. -/
def rows (db : Database) : List (List (Option Bytes)) :=
  match db.connect with
  | .error _ => []
  | .ok script => script.results.flatMap ResultSet.rows

/-- What a database receives of a statement that is prepared before it is run. -/
def sentChecked (db : Database) (sql : String) : List Sent :=
  match db.connect with
  | .error _ => []
  | .ok script =>
    match script.describe with
    | .error _ => [.prepare sql]
    | .ok _ => [.prepare sql, .run sql]

theorem sentChecked_of_prepare_error {db : Database} {e : DatabaseFailure} (sql : String)
    (hprepare : db.prepare = .error e) : db.sentChecked sql = db.sentUnprepared sql := by
  unfold prepare at hprepare
  unfold sentChecked sentUnprepared
  cases hconnect : db.connect with
  | error f => rfl
  | ok script =>
    cases hdescribe : script.describe with
    | error f => simp [hdescribe]
    | ok cs => simp [hconnect, hdescribe] at hprepare

theorem sentChecked_of_prepare {db : Database} {script : Script} {cs : List Column} (sql : String)
    (hprepare : db.prepare = .ok (script, cs)) :
    db.sentChecked sql = [.prepare sql, .run sql] := by
  obtain ⟨hconnect, hdescribe⟩ := prepare_eq_ok_iff.mp hprepare
  simp [sentChecked, hconnect, hdescribe]

/-- A statement that is carried out has been received. -/
theorem sentUnchecked_of_change (db : Database) {rows : Nat} (sql : String)
    (hchange : db.change = .ok rows) : db.sentUnchecked sql = [.run sql] := by
  unfold change at hchange
  unfold sentUnchecked
  cases hconnect : db.connect with
  | error e => simp [hconnect] at hchange
  | ok script => rfl

end Database

/-- An encoder that refuses rows by their number of cells and answers according to the
number of rows. The invariant relates the columns, the number of rows so far and the
state of the encoder. -/
structure RefusesByWidth {σ : Type} (enc : Encoder σ)
    (refuse : List Column → Nat → Option RequestFailure) (answers : Nat → Response → Prop)
    (Inv : List Column → Nat → σ → Prop) : Prop where
  columns : ∀ cs s, ∃ t, enc.columns cs s = (.ok (), t) ∧ Inv cs 0 t
  row : ∀ cs n s row, Inv cs n s → ∃ outcome t, enc.row row s = (outcome, t) ∧
    failureOf outcome = refuse cs row.length ∧ (outcome = .ok () → Inv cs (n + 1) t)
  finish : ∀ cs n s, Inv cs n s → answers n (enc.finish s).1
  fail : ∀ e s, (enc.fail e s).1 = Encoder.failure e

/-- There is a buffer for each cell. -/
theorem length_fillBuffers (buffers : List Bytes) (cells : List (Option Bytes)) :
    (fillBuffers buffers cells).length = cells.length := by
  induction cells generalizing buffers with
  | nil => cases buffers <;> rfl
  | cons cell cells ih => cases buffers <;> simp [fillBuffers, ih]

/-- Deliveries without a failure are the rows. -/
theorem Script.length_deliveries {script : Script} {refuse : Nat → Option RequestFailure}
    (hnone : script.deliveries.findSome? (Delivery.refusal? refuse) = none) :
    script.deliveries.length = (script.results.flatMap ResultSet.rows).length := by
  have herror : ∀ r ∈ script.results, r.error = none := by
    intro r hr
    rcases herror : r.error with _ | text
    · rfl
    · have hmem : .error (.reported text) ∈ script.deliveries := by
        refine List.mem_flatMap.mpr ⟨r, hr, List.mem_append_right _ ?_⟩
        simp [herror]
      have := List.findSome?_eq_none_iff.mp hnone _ hmem
      simp [Delivery.refusal?] at this
  rw [deliveries, List.length_flatMap, List.length_flatMap, List.map_congr_left]
  intro r hr
  simp [ResultSet.deliveries, herror r hr]

namespace RefusesByWidth

variable {σ : Type} {enc : Encoder σ} {refuse : List Column → Nat → Option RequestFailure}
  {answers : Nat → Response → Prop} {Inv : List Column → Nat → σ → Prop}

/-- Feeding rows ends with the first failure of the deliveries, and takes all rows if
there is none. -/
theorem feed (henc : RefusesByWidth enc refuse answers Inv) {cs : List Column} {n : Nat} {s : σ}
    (hs : Inv cs n s) (buffers : List Bytes) (ds : List Delivery) :
    ∃ outcome t, enc.feed buffers s ds = (outcome, t) ∧
      failureOf outcome = ds.findSome? (Delivery.refusal? (refuse cs)) ∧
      (outcome = .ok () → Inv cs (n + ds.length) t) := by
  induction ds generalizing n s buffers with
  | nil => exact ⟨.ok (), s, rfl, rfl, fun _ => hs⟩
  | cons d ds ih =>
    rcases d with e | cells
    · exact ⟨.error (.database e), s, rfl, rfl, by simp⟩
    · obtain ⟨outcome, t, hrow, hfailure, hnext⟩ :=
        henc.row cs n s (fillBuffers buffers cells) hs
      rw [length_fillBuffers] at hfailure
      rcases outcome with e | ⟨⟩
      · refine ⟨.error e, t, by simp [Encoder.feed, hrow], ?_, by simp⟩
        rw [List.findSome?_cons, Delivery.refusal?, ← hfailure]
        rfl
      · obtain ⟨outcome, u, hfeed, hrest, hlast⟩ := ih (hnext rfl) (fillBuffers buffers cells)
        refine ⟨outcome, u, by simp [Encoder.feed, hrow, hfeed], ?_, ?_⟩
        · rw [List.findSome?_cons, Delivery.refusal?, ← hfailure, hrest]
          rfl
        · rw [List.length_cons, Nat.add_comm ds.length, ← Nat.add_assoc]
          exact hlast

/-- A query with a statement: what the database receives, and the answer to its first
failure or to all of its rows. -/
theorem query (henc : RefusesByWidth enc refuse answers Inv) {s : σ} {sql : String}
    (hsql : enc.statement s = .ok sql) (db : Database) :
    (enc.query s db).sent = db.sentChecked sql ∧
      (∀ e, db.firstFailure? refuse = some e → (enc.query s db).response = Encoder.failure e) ∧
      (db.firstFailure? refuse = none → answers db.rows.length (enc.query s db).response) := by
  unfold Database.firstFailure? Encoder.query
  cases hprepare : db.prepare with
  | error e =>
    rw [Encoder.stream_of_prepare_error hsql hprepare,
      Database.sentChecked_of_prepare_error sql hprepare]
    refine ⟨rfl, ?_, by simp⟩
    rintro _ ⟨⟩
    exact henc.fail _ _
  | ok prepared =>
    obtain ⟨script, cs⟩ := prepared
    obtain ⟨t, hcolumns, ht⟩ := henc.columns cs (enc.asked s)
    obtain ⟨outcome, u, hfeed, hfailure, hlast⟩ :=
      henc.feed ht (cs.map fun _ => []) script.deliveries
    rw [Encoder.stream_of_columns hsql hprepare hcolumns, hfeed,
      Database.sentChecked_of_prepare sql hprepare]
    simp only [← hfailure]
    rcases outcome with e | ⟨⟩
    · refine ⟨rfl, ?_, by simp⟩
      rintro _ ⟨⟩
      exact henc.fail _ _
    · refine ⟨rfl, by simp, fun hnone => ?_⟩
      have hconnect := (Database.prepare_eq_ok_iff.mp hprepare).1
      rw [hfailure] at hnone
      have hrows : db.rows.length = script.deliveries.length := by
        rw [Database.rows, hconnect, Script.length_deliveries hnone]
      have hfinish := henc.finish cs _ u (hlast rfl)
      rw [hrows, ← Nat.zero_add script.deliveries.length]
      exact hfinish

end RefusesByWidth

end QueryGateway
