import QueryGateway.Proofs.Answer.Carried
import QueryGateway.Proofs.Calculation
import QueryGateway.Proofs.Database.Buffers
import QueryGateway.Proofs.Endpoint.Contract

/-!
# Cells that get lost

A statement is described before it is run, and its rows may turn out wider than the columns
that were described. The CSV encoder refuses such a row. The list encoder leaves the further
cells out and answers with success: its answer keeps the rows exactly if the query fails or
finds nothing, or no cell beyond the described columns holds anything.
-/

namespace QueryGateway

/-- The columns that the encoder of a query is told; none if the statement is not prepared. -/
def Database.describedColumns (db : Database) : List Column :=
  match db.prepare with
  | .error _ => []
  | .ok (_, columns) => columns

/-- A response that loses no cell silently: it is no success, or its body carries the rows. -/
def Response.Keeps (r : Response) (rows : List (List Bytes)) : Prop :=
  r.status ≠ 200 ∨ OutputColumn.CarriesRows r.body rows

namespace Encoder

/-! ## Queries that do not fail -/

section

variable {σ : Type} (enc : Encoder σ) {s : σ} {db : Database}

/-- Feeding that does not fail gives the encoder all delivered rows. -/
theorem takeRows_of_feedNew {ds : List Delivery} (hok : (enc.feedNew s ds).1 = .ok ()) :
    enc.takeRows (ds.filterMap Delivery.newBuffers?) s = .ok (enc.feedNew s ds).2 := by
  induction ds generalizing s with
  | nil => rfl
  | cons d ds ih =>
    rcases d with e | cells
    · cases hok
    · rcases hrow : enc.row (newBuffers cells) s with ⟨e | ⟨⟩, t⟩
      · simp [feedNew, hrow] at hok
      · have hfeed : enc.feedNew s (.ok cells :: ds) = enc.feedNew t ds := by
          simp [feedNew, hrow]
        rw [hfeed] at hok ⊢
        have hdelivered : (Except.ok cells :: ds).filterMap Delivery.newBuffers? =
            newBuffers cells :: ds.filterMap Delivery.newBuffers? := rfl
        rw [hdelivered, takeRows_of_row hrow]
        exact ih hok

/-- A query that does not fail is answered as the described columns and the delivered rows
are encoded. -/
theorem encodeResult_of_stream (hok : (enc.stream s db).outcome = .ok ()) :
    enc.encodeResult db.describedColumns db.bufferedRows (enc.asked s) =
      .ok (enc.query s db).response := by
  rw [query, respond, hok]
  rw [stream_eq_streamNew] at hok ⊢
  unfold streamNew at hok ⊢
  cases hsql : enc.statement s with
  | error e => simp [hsql] at hok
  | ok sql =>
    cases hprepare : db.prepare with
    | error e => simp [hsql, hprepare] at hok
    | ok prepared =>
      obtain ⟨script, cs⟩ := prepared
      rcases hcolumns : enc.columns cs (enc.asked s) with ⟨e | ⟨⟩, t⟩
      · simp [hsql, hprepare, hcolumns] at hok
      · simp only [hsql, hprepare, hcolumns] at hok
        have htake := enc.takeRows_of_feedNew hok
        rw [Database.filterMap_deliveries hprepare] at htake
        simp only [Database.describedColumns, hprepare, encodeResult, hcolumns, htake]
        rfl

/-- A query that fails is answered by the encoder's response to the failure. -/
theorem query_of_error {e : RequestFailure} (herror : (enc.stream s db).outcome = .error e) :
    (enc.query s db).response = (enc.fail e (enc.stream s db).state).1 := by
  rw [query, respond, herror]

section

variable {refuse : List Column → Nat → Option RequestFailure} {answers : Nat → Response → Prop}
  {Inv : List Column → Nat → σ → Prop} {cs : List Column} {rows : List (List Bytes)}

/-- Rows that are all taken are not refused by their width, however many came before. -/
theorem refuse_eq_none_of_takeRows (henc : RefusesByWidth enc refuse answers Inv) {n : Nat}
    {t : σ} (hs : Inv cs n s) (htake : enc.takeRows rows s = .ok t) :
    ∀ row ∈ rows, refuse cs row.length = none := by
  induction rows generalizing n s with
  | nil => simp
  | cons row rows ih =>
    obtain ⟨outcome, u, hrow, hrefuse, hnext⟩ := henc.row cs n s row hs
    rw [takeRows, hrow] at htake
    cases outcome with
    | error e => cases htake
    | ok _ => exact List.forall_mem_cons.mpr ⟨hrefuse.symm, ih (hnext rfl) htake⟩

/-- An encoder that encodes a result refuses none of its rows by their width. -/
theorem refuse_eq_none_of_encodeResult (henc : RefusesByWidth enc refuse answers Inv)
    {r : Response} (h : enc.encodeResult cs rows s = .ok r) :
    ∀ row ∈ rows, refuse cs row.length = none := by
  obtain ⟨t, hcolumns, ht⟩ := henc.columns cs s
  rw [encodeResult_of_columns hcolumns] at h
  obtain ⟨u, htake, -⟩ := exists_of_map_eq_ok h
  exact refuse_eq_none_of_takeRows enc henc ht htake

end

end

variable (source : Source)

/-- The list encoder answers no success, or the objects of all rows. -/
theorem list_query (s : JsonState) (db : Database) :
    ((list source).query s db).response.status ≠ 200 ∨
      ((list source).query s db).response.body = OutputColumn.encodeRows
        (db.describedColumns.map (OutputColumn.ofColumn source.jsonNames)) db.bufferedRows := by
  cases houtcome : ((list source).stream s db).outcome with
  | error e =>
    left
    rw [query_of_error _ houtcome]
    simp [list, base, failure, Response.envelope, Response.json]
  | ok _ =>
    have hquery := encodeResult_of_stream (list source) houtcome
    by_cases hrows : db.bufferedRows = []
    · left
      have hnothing : (list source).encodeResult db.describedColumns [] ((list source).asked s) =
          .ok .notFound := rfl
      rw [hrows, hnothing] at hquery
      rw [← Except.ok.inj hquery]
      decide
    · right
      rw [list_encodeResult source _ hrows] at hquery
      rw [← Except.ok.inj hquery]
      rfl

/-- The CSV encoder answers no success if a row is not as wide as the described columns. -/
theorem csv_query_width (t : Option Csv.Writer) (db : Database)
    (hstatus : ((csv source).query t db).response.status = 200) :
    ∀ row ∈ db.bufferedRows, row.length = db.describedColumns.length := by
  cases houtcome : ((csv source).stream t db).outcome with
  | error e =>
    rw [query_of_error _ houtcome] at hstatus
    simp [csv, base, failure, Response.envelope, Response.json] at hstatus
  | ok _ =>
    intro row hrow
    have hnone := refuse_eq_none_of_encodeResult _ (refusesByWidth_csv source)
      (encodeResult_of_stream (csv source) houtcome) row hrow
    by_contra hwidth
    simp [Kind.refuse, hwidth] at hnone

/-- **Cells are lost exactly beyond the described columns.** Whatever the names of the endpoint
and the database are, the answer of the list encoder is no success or has a member for each
filled cell within the described columns, and for each filled cell of every row just if no
cell beyond these columns is filled. The CSV encoder answers with success only if every row is
as wide as the columns. -/
theorem list_keeps_iff (s : JsonState) (t : Option Csv.Writer) (db : Database) :
    ((list source).query s db).response.Keeps
        (db.bufferedRows.map (·.take db.describedColumns.length)) ∧
      (((list source).query s db).response.Keeps db.bufferedRows ↔
        ((list source).query s db).response.status ≠ 200 ∨
          ∀ row ∈ db.bufferedRows, ∀ cell ∈ row.drop db.describedColumns.length, cell = []) ∧
      (((csv source).query t db).response.status = 200 →
        ∀ row ∈ db.bufferedRows, row.length = db.describedColumns.length) := by
  have hwidth : (db.describedColumns.map (OutputColumn.ofColumn source.jsonNames)).length =
      db.describedColumns.length := List.length_map _
  refine ⟨?_, ?_, csv_query_width source t db⟩
  · refine (list_query source s db).imp id fun hbody => ?_
    rw [hbody, ← hwidth]
    exact OutputColumn.carriesRows_take _ _
  · by_cases hstatus : ((list source).query s db).response.status = 200
    · have hbody := (list_query source s db).resolve_left (not_not_intro hstatus)
      rw [Response.Keeps, hbody, OutputColumn.carriesRows_iff, hwidth]
    · exact iff_of_true (.inl hstatus) (.inl hstatus)

/-- A database that describes one column and delivers a row with two cells. -/
def wideRow : Database :=
  .scripted { columns := [⟨"id", "INT4"⟩], results := [{ rows := [[some [0x31], some [0x78]]] }] }

/-- The list encoder answers with success and without the second cell, where the CSV encoder
fails. -/
theorem not_keeps_wideRow :
    ((list ⟨.ok "", ⟨[], .verbatim⟩, ⟨[], .verbatim⟩, ""⟩).query {} wideRow).response =
        .json 200 (Utf8.ofString "[\x7b\"id\":1\x7d]") ∧
      ¬ ((list ⟨.ok "", ⟨[], .verbatim⟩, ⟨[], .verbatim⟩, ""⟩).query {} wideRow).response.Keeps
        wideRow.bufferedRows ∧
      ((csv ⟨.ok "", ⟨[], .verbatim⟩, ⟨[], .verbatim⟩, ""⟩).query none wideRow).response =
        failure (.encoding ⟨2, 1⟩) := by
  have hresponse : ((list ⟨.ok "", ⟨[], .verbatim⟩, ⟨[], .verbatim⟩, ""⟩).query {}
      wideRow).response = .json 200 (Utf8.ofString "[\x7b\"id\":1\x7d]") := by decide
  refine ⟨hresponse, ?_, rfl⟩
  rw [hresponse]
  rintro (hstatus | hcarries)
  · exact hstatus rfl
  · have hbody : (Response.json 200 (Utf8.ofString "[\x7b\"id\":1\x7d]")).body =
        OutputColumn.encodeRows [⟨"id", .number⟩] wideRow.bufferedRows := by decide
    rw [hbody, OutputColumn.carriesRows_iff] at hcarries
    exact absurd hcarries (by decide)

end Encoder

end QueryGateway
