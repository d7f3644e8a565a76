import QueryGateway.Answer.Failure
import QueryGateway.Text.Utf8

/-!
# Writing CSV

Records are lines of fields between commas. A field is quoted if it holds a
comma, a quote or the end of a line, with its quotes doubled, and a record
that would be an empty line is written as one quoted empty field. All records
must have as many fields as the first one.
-/

namespace QueryGateway.Csv

/-- Whether a byte makes its field quoted. -/
def needsQuotes (b : UInt8) : Bool :=
  b == 0x2C || b == 0x22 || b == 0x0D || b == 0x0A

/-- A field as it is written, without the quote that closes it. -/
def openField (field : Bytes) : Bytes :=
  if field.any needsQuotes then
    0x22 :: field.flatMap fun b => if b == 0x22 then [0x22, 0x22] else [b]
  else field

/-- A field as it is written. -/
def encodeField (field : Bytes) : Bytes :=
  openField field ++ if field.any needsQuotes then [0x22] else []

/-- A writer: the finished lines, the fields of the present line, and the number
of fields of the first record once it is known. A record that is refused stays
in the present line. -/
structure Writer where
  lines : Bytes := []
  line : List Bytes := []
  width : Option Nat := none
  deriving DecidableEq, Repr

namespace Writer

/-- The fields of a line, separated by commas. -/
def encodeLine (fields : List Bytes) : Bytes :=
  [0x2C].intercalate (fields.map encodeField)

/-- A finished line. -/
def finishLine (fields : List Bytes) : Bytes :=
  let line := encodeLine fields
  (if line.isEmpty then [0x22, 0x22] else line) ++ [0x0A]

/-- Writes a record. -/
def write (w : Writer) (record : List Bytes) : Except UnequalRecords Unit × Writer :=
  let line := w.line ++ record
  let width := w.width.getD line.length
  if line.length = width then
    (.ok (), { lines := w.lines ++ finishLine line, line := [], width := some width })
  else (.error ⟨line.length, width⟩, { w with line })

/-- The fields of the present line, of which the last one is not closed yet. -/
def openLine : List Bytes → Bytes
  | [] => []
  | [field] => openField field
  | field :: rest => encodeField field ++ 0x2C :: openLine rest

/-- All that has been written. -/
def contents (w : Writer) : Bytes :=
  w.lines ++ openLine w.line

/-- The first record, and every record that is as long, becomes a line. -/
theorem write_of_width {w : Writer} {record : List Bytes} (hline : w.line = [])
    (hwidth : w.width.getD record.length = record.length) :
    w.write record = (.ok (), ⟨w.lines ++ finishLine record, [], some record.length⟩) := by
  simp [write, hline, hwidth]

/-- A record of another length is refused. -/
theorem write_of_width_ne {w : Writer} {record : List Bytes} {width : Nat} (hline : w.line = [])
    (hwidth : w.width = some width) (hne : record.length ≠ width) :
    w.write record = (.error ⟨record.length, width⟩, { w with line := record }) := by
  simp [write, hline, hwidth, hne]

end Writer

end QueryGateway.Csv
