import QueryGateway.Proofs.Answer.Rows

/-!
# The round trip of CSV

A reader of CSV in the sense of RFC 4180, which takes a body byte by byte, and the proof that
it finds in the body of a download just the header and the rows, whatever bytes the cells
hold. What carries the proof is the state of the reader after each part that the writer
writes: a field, a line, and all lines.
-/

namespace QueryGateway

namespace Csv

/-! ## The reader -/

/-- Where a reader stands: before a line, before a further field of a line, in a field
without quotes, inside the quotes of a field, or behind a quote that stood inside them. -/
inductive Place where
  | lineStart
  | fieldStart
  | bare
  | quoted
  | afterQuote
  deriving DecidableEq, Repr

/-- A reader: the records so far, the fields of the present line, and the bytes of the
present field. -/
structure Reader where
  records : List (List Bytes) := []
  fields : List Bytes := []
  field : Bytes := []
  place : Place := .lineStart
  deriving DecidableEq, Repr

/-- The bytes that end a line. Of two such bytes, the second one ends a blank line. -/
def isLineEnd (b : UInt8) : Bool := b == 0x0D || b == 0x0A

namespace Reader

/-- Adds a byte to the present field. -/
def append (r : Reader) (place : Place) (b : UInt8) : Reader :=
  { r with field := r.field ++ [b], place }

/-- Ends the present field. -/
def endField (r : Reader) : Reader :=
  { r with fields := r.fields ++ [r.field], field := [], place := .fieldStart }

/-- Ends the present field and the line. -/
def endLine (r : Reader) : Reader :=
  { records := r.records ++ [r.fields ++ [r.field]] }

/-- Takes a byte. Outside quotes a comma ends the field and a line end the line, where a blank
line is no record. A quote begins a field, or stands in it twice; the quote that closes a field
is followed by the end of the field. -/
def step (r : Reader) (b : UInt8) : Option Reader :=
  match r.place with
  | .quoted => some (if b == 0x22 then { r with place := .afterQuote } else r.append .quoted b)
  | place =>
    if b == 0x2C then some r.endField
    else if isLineEnd b then some (if place = .lineStart then r else r.endLine)
    else if b == 0x22 then
      match place with
      | .bare => none
      | .afterQuote => some (r.append .quoted b)
      | _ => some { r with place := .quoted }
    else
      match place with
      | .afterQuote => none
      | _ => some (r.append .bare b)

/-- The records at the end of the input, where the last line need not be ended. -/
def finish (r : Reader) : Option (List (List Bytes)) :=
  match r.place with
  | .lineStart => some r.records
  | .quoted => none
  | _ => some r.endLine.records

end Reader

/-- The records of a CSV body. -/
def read? (body : Bytes) : Option (List (List Bytes)) :=
  (body.foldlM Reader.step {}).bind Reader.finish

/-! ## Fields -/

namespace Reader

variable {r t : Reader}

/-- Taking a byte before others. -/
theorem foldlM_cons_of_some {b : UInt8} (hb : r.step b = some t) (rest : Bytes) :
    (b :: rest).foldlM step r = rest.foldlM step t := by
  rw [List.foldlM_cons, hb]
  rfl

/-- Taking some bytes before others. -/
theorem foldlM_append_of_some {input : Bytes} (hinput : input.foldlM step r = some t)
    (rest : Bytes) : (input ++ rest).foldlM step r = rest.foldlM step t := by
  rw [List.foldlM_append, hinput]
  rfl

/-- Outside quotes, a comma ends the field. -/
theorem step_comma (hr : r.place ≠ .quoted) : r.step 0x2C = some r.endField := by
  unfold step
  cases hplace : r.place with
  | quoted => exact absurd hplace hr
  | _ => rfl

/-- Outside quotes, a line feed ends a line that is not blank. -/
theorem step_lineFeed (hr : r.place ≠ .quoted) (hstart : r.place ≠ .lineStart) :
    r.step 0x0A = some r.endLine := by
  unfold step
  cases hplace : r.place with
  | quoted => exact absurd hplace hr
  | lineStart => exact absurd hplace hstart
  | _ => rfl

/-- A byte that needs no quotes begins or continues a field without quotes. -/
theorem step_of_not_needsQuotes {b : UInt8} (hb : needsQuotes b = false)
    (hr : r.place ≠ .quoted) (hquote : r.place ≠ .afterQuote) :
    r.step b = some (r.append .bare b) := by
  simp only [needsQuotes, Bool.or_eq_false_iff] at hb
  obtain ⟨⟨⟨hcomma, hmark⟩, hreturn⟩, hfeed⟩ := hb
  unfold step
  cases hplace : r.place with
  | quoted => exact absurd hplace hr
  | afterQuote => exact absurd hplace hquote
  | _ => simp [hcomma, hmark, hreturn, hfeed, isLineEnd]

/-- The bytes of a field without quotes are taken as they are. -/
theorem foldlM_bare {field : Bytes} (hfield : field.any needsQuotes = false)
    (hr : r.place = .bare) :
    field.foldlM step r = some { r with field := r.field ++ field } := by
  induction field generalizing r with
  | nil => simp
  | cons b field ih =>
    rw [List.any_cons, Bool.or_eq_false_iff] at hfield
    have hb := step_of_not_needsQuotes hfield.1 (r := r) (by simp [hr]) (by simp [hr])
    rw [foldlM_cons_of_some hb, ih hfield.2 rfl]
    simp [append, hr]

/-- The bytes of a field inside quotes are taken as they are, and each doubled quote as one. -/
theorem foldlM_quoted (field : Bytes) (hr : r.place = .quoted) :
    (field.flatMap fun b => if b == 0x22 then [0x22, 0x22] else [b]).foldlM step r =
      some { r with field := r.field ++ field } := by
  induction field generalizing r with
  | nil => simp
  | cons b field ih =>
    have hb : (if b == 0x22 then [0x22, 0x22] else [b]).foldlM step r =
        some (r.append .quoted b) := by
      by_cases hmark : b = 0x22
      · subst hmark
        simp [step, hr, append, isLineEnd]
      · simp [step, hr, hmark]
    rw [List.flatMap_cons, foldlM_append_of_some hb, ih rfl]
    simp [append, hr]

/-- After a written field the reader holds its bytes, and stands outside quotes. It stands at
the start of a line only if it did so before an empty field without quotes. -/
theorem foldlM_encodeField (field : Bytes)
    (hplace : r.place = .lineStart ∨ r.place = .fieldStart) (hr : r.field = []) :
    ∃ place, place ≠ .quoted ∧
      (place = .lineStart → r.place = .lineStart ∧ encodeField field = []) ∧
      (encodeField field).foldlM step r = some { r with field, place } := by
  have hplain : r.place ≠ .quoted ∧ r.place ≠ .afterQuote := by
    rcases hplace with h | h <;> simp [h]
  cases hquotes : field.any needsQuotes with
  | true =>
    have hopen : r.step 0x22 = some { r with place := .quoted } := by
      unfold step
      rcases hplace with h | h <;> rw [h] <;> rfl
    refine ⟨.afterQuote, by simp, by simp, ?_⟩
    rw [encodeField, openField, hquotes, if_pos rfl, if_pos rfl, List.cons_append,
      foldlM_cons_of_some hopen, foldlM_append_of_some (foldlM_quoted field rfl)]
    simp [step, hr]
  | false =>
    have hwritten : encodeField field = field := by simp [encodeField, openField, hquotes]
    rw [hwritten]
    cases field with
    | nil => exact ⟨r.place, hplain.1, fun h => ⟨h, rfl⟩, by rw [List.foldlM_nil, ← hr]; rfl⟩
    | cons b field =>
      rw [List.any_cons, Bool.or_eq_false_iff] at hquotes
      have hb := step_of_not_needsQuotes hquotes.1 hplain.1 hplain.2
      refine ⟨.bare, by simp, by simp, ?_⟩
      rw [foldlM_cons_of_some hb, foldlM_bare hquotes.2 rfl]
      simp [append, hr]

/-! ## Lines -/

/-- A written line that is not blank is read as its fields. Behind a comma it need not have
any bytes. -/
theorem foldlM_encodeLine {fields : List Bytes} (hne : fields ≠ [])
    (hplace : r.place = .lineStart ∧ Writer.encodeLine fields ≠ [] ∨ r.place = .fieldStart)
    (hr : r.field = []) :
    (Writer.encodeLine fields ++ [0x0A]).foldlM step r =
      some { records := r.records ++ [r.fields ++ fields] } := by
  induction fields generalizing r with
  | nil => exact absurd rfl hne
  | cons field fields ih =>
    obtain ⟨place, hquoted, hstart, hfield⟩ :=
      foldlM_encodeField field (hplace.imp_left And.left) hr
    rcases fields with _ | ⟨next, fields⟩
    · have hline : Writer.encodeLine [field] = encodeField field := by simp [Writer.encodeLine]
      have hlast : place ≠ .lineStart := by
        intro h
        obtain ⟨hline', hempty⟩ := hstart h
        rcases hplace with ⟨-, hwritten⟩ | hplace
        · exact hwritten (hline.trans hempty)
        · rw [hplace] at hline'
          cases hline'
      rw [hline, foldlM_append_of_some hfield, foldlM_cons_of_some (step_lineFeed hquoted hlast)]
      rfl
    · have hline : Writer.encodeLine (field :: next :: fields) =
          encodeField field ++ 0x2C :: Writer.encodeLine (next :: fields) := by
        simp [Writer.encodeLine, List.intercalate_cons_cons]
      rw [hline, List.append_assoc, List.cons_append, foldlM_append_of_some hfield,
        foldlM_cons_of_some (step_comma hquoted), ih (List.cons_ne_nil _ _) (.inr rfl) rfl]
      simp [endField]

/-- Only a single empty field would be a blank line. -/
theorem eq_of_encodeLine_eq_nil {fields : List Bytes} (hne : fields ≠ [])
    (hline : Writer.encodeLine fields = []) : fields = [[]] := by
  rcases fields with _ | ⟨field, _ | ⟨next, fields⟩⟩
  · exact absurd rfl hne
  · have hfield : encodeField field = [] := by simpa [Writer.encodeLine] using hline
    cases hquotes : field.any needsQuotes <;> simp [encodeField, openField, hquotes] at hfield
    rw [hfield]
  · simp [Writer.encodeLine, List.intercalate_cons_cons] at hline

/-- A finished line is read as one record. -/
theorem foldlM_finishLine {fields : List Bytes} (hne : fields ≠ [])
    (records : List (List Bytes)) :
    (Writer.finishLine fields).foldlM step { records } =
      some { records := records ++ [fields] } := by
  by_cases hline : Writer.encodeLine fields = []
  · obtain rfl := eq_of_encodeLine_eq_nil hne hline
    rfl
  · rw [Writer.finishLine, if_neg (by simpa using hline)]
    exact foldlM_encodeLine hne (.inl ⟨rfl, hline⟩) rfl

/-- Finished lines are read as their records. -/
theorem foldlM_finishLines {lines : List (List Bytes)} (hlines : ∀ fields ∈ lines, fields ≠ [])
    (records : List (List Bytes)) :
    (lines.flatMap Writer.finishLine).foldlM step { records } =
      some { records := records ++ lines } := by
  induction lines generalizing records with
  | nil => simp
  | cons fields lines ih =>
    rw [List.forall_mem_cons] at hlines
    rw [List.flatMap_cons, foldlM_append_of_some (foldlM_finishLine hlines.1 records),
      ih hlines.2]
    simp

end Reader

/-- The reader finds the records of finished lines. -/
theorem read?_finishLines {lines : List (List Bytes)} (hlines : ∀ fields ∈ lines, fields ≠ []) :
    read? (lines.flatMap Writer.finishLine) = some lines := by
  rw [read?, Reader.foldlM_finishLines hlines]
  rfl

/-- Lines may end in two bytes, and a quote in a field without quotes cannot be read. -/
example : read? [0x61, 0x2C, 0x0D, 0x0A, 0x0A, 0x62] = some [[[0x61], []], [[0x62]]] ∧
    read? [0x61, 0x22, 0x0A] = none := by
  decide

end Csv

namespace Encoder

open Csv

variable (source : Source)

/-- The header of a download: the names of the columns. -/
def csvHeader (columns : List Column) : List Bytes :=
  columns.map fun c => Utf8.ofString (source.csvNames.nameOf c.name)

/-- Rows as wide as the header become lines, one after the other. -/
theorem csv_takeRows {width : Nat} {rows : List (List Bytes)}
    (hrows : ∀ row ∈ rows, row.length = width) (lines : Bytes) :
    (csv source).takeRows rows (some ⟨lines, [], some width⟩) =
      .ok (some ⟨lines ++ rows.flatMap Writer.finishLine, [], some width⟩) := by
  induction rows generalizing lines with
  | nil => simp [takeRows]
  | cons row rows ih =>
    rw [List.forall_mem_cons] at hrows
    obtain ⟨hlength, hrest⟩ := hrows
    have hwrite : (⟨lines, [], some width⟩ : Writer).write row =
        (.ok (), ⟨lines ++ Writer.finishLine row, [], some row.length⟩) :=
      Writer.write_of_width rfl hlength.symm
    have hrow : (csv source).row row (some ⟨lines, [], some width⟩) =
        (.ok (), some ⟨lines ++ Writer.finishLine row, [], some width⟩) := by
      rw [hlength] at hwrite
      rw [csv]
      simp only [hwrite]
      rfl
    rw [takeRows_of_row hrow, ih hrest, List.flatMap_cons, List.append_assoc]

/-- The response of the CSV encoder to a result whose rows are as wide as its columns. -/
theorem csv_encodeResult {columns : List Column} {rows : List (List Bytes)}
    (hrows : ∀ row ∈ rows, row.length = columns.length) (s : Option Writer) :
    (csv source).encodeResult columns rows s = .ok (.csvDownload source.filename
      ((csvHeader source columns :: rows).flatMap Writer.finishLine)) := by
  have hlength : (csvHeader source columns).length = columns.length := List.length_map _
  have hwrite : ({} : Writer).write (csvHeader source columns) =
      (.ok (), ⟨Writer.finishLine (csvHeader source columns), [], some columns.length⟩) := by
    rw [← hlength]
    exact Writer.write_of_width rfl rfl
  have hcolumns : (csv source).columns columns s =
      (.ok (), some ⟨Writer.finishLine (csvHeader source columns), [],
        some columns.length⟩) := by
    rw [csvHeader] at hwrite ⊢
    rw [csv]
    simp only [hwrite]
    rfl
  rw [encodeResult_of_columns hcolumns, csv_takeRows source hrows]
  simp [Except.map, csv, base, Writer.contents, Writer.openLine]

/-- The CSV encoder can be read back. Whatever the columns and their names are, and whatever
bytes the cells of the rows hold, the body consists of the header and the rows, and the types
of the columns do not matter for it. -/
theorem csv_round_trip (s : Option Writer) (columns : List Column) (hcolumns : columns ≠ [])
    (rows : List (List Bytes)) (hrows : ∀ row ∈ rows, row.length = columns.length) :
    ∃ body, (csv source).encodeResult columns rows s =
        .ok (.csvDownload source.filename body) ∧
      Csv.read? body = some (csvHeader source columns :: rows) ∧
      ∀ retyped : List Column, retyped.map Column.name = columns.map Column.name →
        (csv source).encodeResult retyped rows s = .ok (.csvDownload source.filename body) := by
  refine ⟨_, csv_encodeResult source hrows s, read?_finishLines ?_, fun retyped hnames => ?_⟩
  · rw [List.forall_mem_cons]
    have hpos : 0 < columns.length := List.length_pos_iff.mpr hcolumns
    refine ⟨by simpa [csvHeader] using hcolumns, fun row hrow => ?_⟩
    rw [← List.length_pos_iff, hrows row hrow]
    exact hpos
  · have hlength : retyped.length = columns.length := by
      simpa using congrArg List.length hnames
    have hheader : csvHeader source retyped = csvHeader source columns := by
      have hmap (cs : List Column) : csvHeader source cs = (cs.map Column.name).map fun name =>
          Utf8.ofString (source.csvNames.nameOf name) := by
        simp [csvHeader]
      rw [hmap, hmap, hnames]
    rw [← hheader]
    exact csv_encodeResult source (fun row hrow => (hrows row hrow).trans hlength.symm) s

/-- A column without a name, an empty cell, and a cell with all bytes that need quotes. -/
theorem csv_round_trip_blank :
    ∃ body, (csv ⟨.ok "", ⟨[], .verbatim⟩, ⟨[("a", "")], .verbatim⟩, "f"⟩).encodeResult
        [⟨"a", "INT4"⟩] [[[]], [[0x22, 0x2C, 0x0D, 0x0A, 0x22]]] none =
        .ok (.csvDownload "f" body) ∧
      Csv.read? body = some [[[]], [[]], [[0x22, 0x2C, 0x0D, 0x0A, 0x22]]] ∧
      ∀ retyped : List Column, retyped.map Column.name = ["a"] →
        (csv ⟨.ok "", ⟨[], .verbatim⟩, ⟨[("a", "")], .verbatim⟩, "f"⟩).encodeResult
          retyped [[[]], [[0x22, 0x2C, 0x0D, 0x0A, 0x22]]] none = .ok (.csvDownload "f" body) :=
  csv_round_trip _ none [⟨"a", "INT4"⟩] (by decide) _ (by decide)

end Encoder

end QueryGateway
