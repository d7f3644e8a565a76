import QueryGateway.Proofs.Answer.Rows

/-!
# Single objects as heads of lists

The list encoder counts the rows and writes behind the bracket that it opened at the columns.
The single encoder notes that it has seen a row and writes to an empty text. Given the same
columns and rows, the object of the second is the first object of the list.
-/

namespace QueryGateway

/-- The objects behind the first one of a list, each after a comma. -/
def OutputColumn.laterObjects (columns : List OutputColumn) (rows : List (List Bytes)) : Bytes :=
  rows.flatMap fun row => 0x2C :: encodeRow columns row

namespace Encoder

variable (source : Source) (columns : List Column)

/-- The first row is written as an object. -/
theorem single_row_of_unseen (row : List Bytes) {s : JsonState} (hs : s.rows = 0) :
    (single source).row row s = (.ok (),
      { s with rows := 1, buffer := s.buffer ++ OutputColumn.encodeRow s.columns row }) := by
  simp [single, hs]

/-- A row after the first leaves everything as it was. -/
theorem single_row_of_seen (row : List Bytes) {s : JsonState} (hs : s.rows ≠ 0) :
    (single source).row row s = (.ok (), s) := by
  simp [single, hs]

/-- However many rows come after the first, they leave everything as it was. -/
theorem single_takeRows (rows : List (List Bytes)) {s : JsonState} (hs : s.rows ≠ 0) :
    (single source).takeRows rows s = .ok s := by
  induction rows with
  | nil => rfl
  | cons row rows ih => rw [takeRows_of_row (single_row_of_seen source row hs), ih]

/-- The response of the single encoder to a result with rows is the object of the first. -/
theorem single_encodeResult (row : List Bytes) (rows : List (List Bytes)) (s : JsonState) :
    (single source).encodeResult columns (row :: rows) s = .ok (.json 200
      (OutputColumn.encodeRow (columns.map (OutputColumn.ofColumn source.jsonNames)) row)) := by
  have hcolumns : (single source).columns columns s =
      (.ok (), { columns := columns.map (.ofColumn source.jsonNames) }) := rfl
  have hrow := single_row_of_unseen source row
    (s := { columns := columns.map (.ofColumn source.jsonNames) }) rfl
  rw [encodeResult_of_columns hcolumns, takeRows_of_row hrow,
    single_takeRows source rows Nat.one_ne_zero]
  rfl

/-- **Single is the head of list.** Whatever the names of the endpoint and the columns are, and
whatever the encoders were given before, both answer that nothing was found if there are no
rows. Otherwise both answer with success: the single encoder with the object of the first row,
whatever rows follow, and the list encoder with a list that begins with this object and goes
on with the objects of the rows behind the first. -/
theorem single_is_head_of_list (s t : JsonState) :
    ((single source).encodeResult columns [] s = .ok .notFound ∧
      (list source).encodeResult columns [] t = .ok .notFound) ∧
    ∀ row rows,
      (single source).encodeResult columns (row :: rows) s = .ok (.json 200
        (OutputColumn.encodeRow (columns.map (OutputColumn.ofColumn source.jsonNames)) row)) ∧
      (list source).encodeResult columns (row :: rows) t = .ok (.json 200
        (0x5B ::
          (OutputColumn.encodeRow (columns.map (OutputColumn.ofColumn source.jsonNames)) row ++
            OutputColumn.laterObjects (columns.map (OutputColumn.ofColumn source.jsonNames)) rows)
          ++ [0x5D])) := by
  refine ⟨⟨rfl, rfl⟩, fun row rows => ⟨?_, ?_⟩⟩
  · exact single_encodeResult source columns row rows s
  · rw [list_encodeResult source columns (List.cons_ne_nil row rows), List.map_cons,
      intercalate_cons_eq, List.flatMap_map, OutputColumn.laterObjects]

end Encoder

end QueryGateway
