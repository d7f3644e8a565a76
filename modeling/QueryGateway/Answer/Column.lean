import QueryGateway.Naming.Style
import QueryGateway.Text.Utf8

/-!
# Columns of a result

A column has the name and the type that the database reports. An endpoint
gives it an output name, and its type decides how its values are written in
JSON: numbers and truth values bare, everything else as strings.
-/

namespace QueryGateway

/-- A column as the database describes it. -/
structure Column where
  name : String
  typeName : String
  deriving DecidableEq, Repr

/-- How the values of a column are written in JSON. -/
inductive ValueKind where
  | number
  | truth
  | text
  deriving DecidableEq, Repr

namespace ValueKind

/-- The database types of numbers. -/
def numberTypes : List String :=
  ["INT", "INT2", "INT4", "INT8", "SMALLINT", "INTEGER", "BIGINT", "DECIMAL", "NUMERIC",
   "FLOAT4", "FLOAT8", "REAL", "DOUBLE PRECISION"]

/-- The kind of a database type, whose casing does not count. -/
def ofType (typeName : String) : ValueKind :=
  let name := Text.upperString typeName
  if numberTypes.contains name then .number
  else if name == "BOOL" || name == "BOOLEAN" then .truth
  else .text

end ValueKind

/-- The output names that an endpoint gives to columns: listed ones, of which a
later entry wins, and a style for the others. -/
structure Naming where
  listed : List (String × String)
  style : NameStyle
  deriving DecidableEq, Repr

/-- The output name of a column. -/
def Naming.nameOf (naming : Naming) (column : String) : String :=
  (naming.listed.reverse.lookup column).getD (naming.style.convert column)

/-- A column with its output name. -/
structure OutputColumn where
  name : String
  kind : ValueKind
  deriving DecidableEq, Repr

namespace OutputColumn

/-- A column under the names of an endpoint. -/
def ofColumn (naming : Naming) (c : Column) : OutputColumn :=
  { name := naming.nameOf c.name, kind := .ofType c.typeName }

/-- A hexadecimal digit in lower case. -/
def hexDigit (n : Nat) : UInt8 :=
  UInt8.ofNat (if n < 10 then 0x30 + n else 0x57 + n)

/-- A byte inside a JSON string. -/
def escapeByte (b : UInt8) : Bytes :=
  if b == 0x22 then [0x5C, 0x22]
  else if b == 0x5C then [0x5C, 0x5C]
  else if b == 0x0A then [0x5C, 0x6E]
  else if b == 0x0D then [0x5C, 0x72]
  else if b == 0x09 then [0x5C, 0x74]
  else if b < 0x20 then
    [0x5C, 0x75, 0x30, 0x30, hexDigit (b.toNat / 16), hexDigit (b.toNat % 16)]
  else [b]

/-- Bytes as a JSON string. -/
def quoteBytes (s : Bytes) : Bytes :=
  0x22 :: s.flatMap escapeByte ++ [0x22]

/-- Whether a byte is an ASCII digit. -/
def isDigitByte (b : UInt8) : Bool := 0x30 ≤ b && b ≤ 0x39

/-- Whether a value of a number column is written bare: it begins with a digit or
a minus sign and ends in a digit, which excludes the names of NaN and infinity. -/
def looksNumeric (value : Bytes) : Bool :=
  value.head?.any (fun b => b == 0x2D || isDigitByte b) && value.getLast?.any isDigitByte

/-- A value of a truth column, if it is one of the spellings. -/
def truthOf? (value : Bytes) : Option Bool :=
  if value == Utf8.ofString "t" || value == Utf8.ofString "true" then some true
  else if value == Utf8.ofString "f" || value == Utf8.ofString "false" then some false
  else none

/-- A value in JSON. -/
def encodeValue (kind : ValueKind) (value : Bytes) : Bytes :=
  match kind with
  | .number => if looksNumeric value then value else quoteBytes value
  | .truth =>
    match truthOf? value with
    | some b => Utf8.ofString (if b then "true" else "false")
    | none => quoteBytes value
  | .text => quoteBytes value

/-- A member of a JSON object. -/
def encodeMember (c : OutputColumn) (value : Bytes) : Bytes :=
  quoteBytes (Utf8.ofString c.name) ++ 0x3A :: encodeValue c.kind value

/-- The members of a row. Empty values have none, and neither has a value beyond
the columns. -/
def members (columns : List OutputColumn) (row : List Bytes) : List Bytes :=
  ((columns.zip row).filter fun (_, value) => !value.isEmpty).map fun (c, value) =>
    c.encodeMember value

/-- A row as a JSON object. -/
def encodeRow (columns : List OutputColumn) (row : List Bytes) : Bytes :=
  0x7B :: [0x2C].intercalate (members columns row) ++ [0x7D]

end OutputColumn

end QueryGateway
