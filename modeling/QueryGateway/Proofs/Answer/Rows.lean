import QueryGateway.Answer.Encoder
import QueryGateway.Proofs.Answer.Cells

/-!
# The round trip of lists

The list encoder writes each row as an object with a member for each cell that is not
empty. Its body is the UTF-8 form of a JSON text that denotes the list of these objects.
-/

namespace QueryGateway

namespace Utf8

/-- The form of texts with commas between them. -/
theorem encode_intercalate (parts : List (List Char)) :
    encode ([','].intercalate parts) = [0x2C].intercalate (parts.map encode) := by
  induction parts with
  | nil => rfl
  | cons s parts ih =>
    rcases parts with _ | ⟨t, parts⟩
    · simp
    · have hcomma : encode [','] = [0x2C] := by decide
      rw [List.intercalate_cons_cons, encode_append, encode_append, ih, hcomma]
      simp only [List.map_cons, List.intercalate_cons_cons]

end Utf8

namespace OutputColumn

open Json Json.Document

variable (names : Naming) (columns : List Column) (row : List String)

/-! ## Rows -/

/-- The cells of a row that are not empty, with their columns. -/
def filledCells : List (Column × String) :=
  (columns.zip row).filter fun p => p.2 != ""

/-- What a row denotes: the cells that are not empty, under the names of their columns. -/
def rowDocument : Document :=
  .object ((filledCells columns row).map fun p =>
    (names.nameOf p.1.name, cellDocument (.ofType p.1.typeName) p.2))

/-- A row as a JSON text. -/
def rowText : List Char :=
  '\x7b' :: [','].intercalate ((filledCells columns row).map fun p =>
    member escapeText (names.nameOf p.1.name) (cellText (.ofType p.1.typeName) p.2)) ++ ['\x7d']

/-- The JSON text of a row denotes what the row denotes. -/
theorem reads_rowText : Reads (rowText names columns row) (rowDocument names columns row) :=
  reads_object escapes_escapeText fun _ _ => reads_cellText _ _

/-- A row whose cells the encoder can write. -/
def WritableRow : Prop :=
  ∀ p ∈ columns.zip row, Writable (.ofType p.1.typeName) p.2

variable {columns row}

/-- The form of a member is that of its JSON text. -/
theorem encodeMember_ofString {c : Column} {s : String}
    (hs : LooksRight (.ofType c.typeName) s) :
    encodeMember (ofColumn names c) (Utf8.ofString s) = Utf8.encode
      (member escapeText (names.nameOf c.name) (cellText (.ofType c.typeName) s)) := by
  rw [encodeMember, quoteBytes_ofString, ofColumn, encodeValue_ofString hs, member,
    Utf8.encode_append, Utf8.encode_cons]
  rfl

/-- The members of a row are its cells that are not empty. -/
theorem members_ofString (hrow : WritableRow columns row) :
    members (columns.map (ofColumn names)) (row.map Utf8.ofString) =
      ((filledCells columns row).map fun p => member escapeText (names.nameOf p.1.name)
        (cellText (.ofType p.1.typeName) p.2)).map Utf8.encode := by
  have hempty (s : String) : (Utf8.ofString s).isEmpty = (s == "") := by
    rw [Bool.eq_iff_iff, List.isEmpty_iff, beq_iff_eq]
    exact Utf8.ofString_inj (t := "")
  rw [members, List.zip_map, List.filter_map, List.map_map, List.map_map]
  simp only [Function.comp_def, Prod.map, hempty]
  apply List.map_congr_left
  intro p hp
  obtain ⟨hmem, hne⟩ := List.mem_filter.mp hp
  exact encodeMember_ofString names ((hrow p hmem).looksRight (by simpa using hne))

/-- The form of a row is that of its JSON text. -/
theorem encodeRow_ofString (hrow : WritableRow columns row) :
    encodeRow (columns.map (ofColumn names)) (row.map Utf8.ofString) =
      Utf8.encode (rowText names columns row) := by
  rw [encodeRow, members_ofString names hrow, ← Utf8.encode_intercalate, rowText,
    Utf8.encode_append, Utf8.encode_cons]
  rfl

end OutputColumn

namespace Encoder

variable {σ : Type}

/-- Gives rows to an encoder until it refuses one. -/
def takeRows (enc : Encoder σ) : List (List Bytes) → σ → Except RequestFailure σ
  | [], s => .ok s
  | row :: rows, s =>
    match enc.row row s with
    | (.ok (), t) => enc.takeRows rows t
    | (.error e, _) => .error e

/-- The response to a result: the encoder is given the columns, then each row, and is
asked for the response at the end. -/
def encodeResult (enc : Encoder σ) (columns : List Column) (rows : List (List Bytes)) (s : σ) :
    Except RequestFailure Response :=
  match enc.columns columns s with
  | (.ok (), t) => (enc.takeRows rows t).map fun t => (enc.finish t).1
  | (.error e, _) => .error e

section

variable {enc : Encoder σ} {s t : σ}

/-- A row that is not refused is followed by the other rows. -/
theorem takeRows_of_row {row : List Bytes} (hrow : enc.row row s = (.ok (), t))
    (rows : List (List Bytes)) : enc.takeRows (row :: rows) s = enc.takeRows rows t := by
  rw [takeRows, hrow]

/-- Columns that are not refused are followed by the rows. -/
theorem encodeResult_of_columns {columns : List Column}
    (hcolumns : enc.columns columns s = (.ok (), t)) (rows : List (List Bytes)) :
    enc.encodeResult columns rows s = (enc.takeRows rows t).map fun t => (enc.finish t).1 := by
  rw [encodeResult, hcolumns]

end

/-- Every row after the first stands after a comma. -/
theorem list_takeRows (source : Source) (rows : List (List Bytes)) {s : JsonState}
    (hs : s.rows ≠ 0) :
    (list source).takeRows rows s = .ok
      { s with
        rows := s.rows + rows.length
        buffer := s.buffer ++ rows.flatMap fun row => 0x2C :: OutputColumn.encodeRow s.columns row
      } := by
  induction rows generalizing s with
  | nil => simp [takeRows]
  | cons row rows ih =>
    have hrow : (list source).row row s = (.ok (),
        { s with
          rows := s.rows + 1
          buffer := s.buffer ++ 0x2C :: OutputColumn.encodeRow s.columns row }) := by
      simp [list, hs]
    rw [takeRows_of_row hrow, ih (Nat.succ_ne_zero _)]
    simp only [List.length_cons, List.flatMap_cons, List.append_assoc, Nat.add_assoc,
      Nat.add_comm 1]

/-- Parts with commas between them are the first part, and each other part after a comma. -/
theorem intercalate_cons_eq (part : Bytes) (parts : List Bytes) :
    [0x2C].intercalate (part :: parts) = part ++ parts.flatMap fun p => 0x2C :: p := by
  induction parts generalizing part with
  | nil => simp
  | cons next parts ih =>
    rw [List.intercalate_cons_cons, ih next, List.flatMap_cons]
    simp

/-- The response of the list encoder to a result with rows. -/
theorem list_encodeResult (source : Source) (columns : List Column) {rows : List (List Bytes)}
    (hrows : rows ≠ []) (s : JsonState) :
    (list source).encodeResult columns rows s = .ok (.json 200
      (0x5B :: [0x2C].intercalate (rows.map (OutputColumn.encodeRow
        (columns.map (OutputColumn.ofColumn source.jsonNames)))) ++ [0x5D])) := by
  obtain ⟨row, rows, rfl⟩ := List.exists_cons_of_ne_nil hrows
  have hcolumns : (list source).columns columns s =
      (.ok (), { columns := columns.map (.ofColumn source.jsonNames), buffer := [0x5B] }) := rfl
  have hrow : (list source).row row
        { columns := columns.map (.ofColumn source.jsonNames), buffer := [0x5B] } =
      (.ok (),
        { columns := columns.map (.ofColumn source.jsonNames)
          rows := 1
          buffer := 0x5B :: OutputColumn.encodeRow (columns.map (.ofColumn source.jsonNames)) row
        }) := by
    simp [list]
  rw [encodeResult_of_columns hcolumns, takeRows_of_row hrow,
    list_takeRows source rows (Nat.succ_ne_zero _), List.map_cons, intercalate_cons_eq]
  simp [Except.map, list, base, List.flatMap_map]

/-- The list encoder can be read back. Whatever the columns and their names are, and
whatever texts the cells of the rows hold, the body denotes the list of the rows, each with
just its cells that are not empty, in the order of the columns. -/
theorem list_round_trip (source : Source) (s : JsonState) (columns : List Column)
    (rows : List (List String)) (hrows : rows ≠ [])
    (hnumbers : ∀ row ∈ rows, ∀ p ∈ columns.zip row,
      ValueKind.ofType p.1.typeName = .number → p.2 ≠ "" →
        Json.isNumber p.2.toList = true ∨ p.2 ∈ ["NaN", "Infinity", "-Infinity"]) :
    ∃ body, (list source).encodeResult columns (rows.map (·.map Utf8.ofString)) s =
        .ok (.json 200 body) ∧
      Json.Document.ofBytes? body =
        some (.list (rows.map (OutputColumn.rowDocument source.jsonNames columns))) := by
  have hne : rows.map (·.map Utf8.ofString) ≠ [] := by simpa using hrows
  refine ⟨_, list_encodeResult source columns hne s, ?_⟩
  have hrowtexts : (rows.map (·.map Utf8.ofString)).map
        (OutputColumn.encodeRow (columns.map (.ofColumn source.jsonNames))) =
      (rows.map (OutputColumn.rowText source.jsonNames columns)).map Utf8.encode := by
    rw [List.map_map, List.map_map]
    apply List.map_congr_left
    intro row hrow
    exact OutputColumn.encodeRow_ofString source.jsonNames (hnumbers row hrow)
  have hbody : 0x5B :: [0x2C].intercalate ((rows.map (OutputColumn.rowText source.jsonNames
        columns)).map Utf8.encode) ++ [0x5D] =
      Utf8.encode ('[' :: [','].intercalate (rows.map (OutputColumn.rowText source.jsonNames
        columns)) ++ [']']) := by
    rw [← Utf8.encode_intercalate, Utf8.encode_append, Utf8.encode_cons]
    rfl
  have hreads := Json.Document.reads_list fun row (_ : row ∈ rows) =>
    OutputColumn.reads_rowText source.jsonNames columns row
  rw [hrowtexts, hbody, Json.Document.ofBytes?, Utf8.decode?_encode]
  exact hreads.ofText?

/-- A number, a number that JSON does not have, and empty cells in every column. -/
theorem list_round_trip_mixed :
    ∃ body, (list ⟨.ok "", ⟨[("n", "\"n\"")], .verbatim⟩, ⟨[], .verbatim⟩, ""⟩).encodeResult
        [⟨"n", "INT4"⟩, ⟨"ok", "bool"⟩, ⟨"s", "TEXT"⟩]
        ([["-1.5e3", "t", "a\"\\\nb"], ["NaN", "", "é"], ["", "", ""]].map (·.map Utf8.ofString))
        {} = .ok (.json 200 body) ∧
      Json.Document.ofBytes? body = some (.list [
        .object [("\"n\"", .number ⟨['-', '1', '.', '5', 'e', '3'], by decide⟩),
          ("ok", .truth true), ("s", .string "a\"\\\nb")],
        .object [("\"n\"", .string "NaN"), ("s", .string "é")],
        .object []]) :=
  list_round_trip _ _ _ [["-1.5e3", "t", "a\"\\\nb"], ["NaN", "", "é"], ["", "", ""]] (by decide)
    (by decide)

end Encoder

end QueryGateway
