import QueryGateway.Json.Scalar

/-!
# Reading JSON

`read` turns bytes into a tree or reports the first failure with its position.
Lists and maps nest at most 127 deep, and of repeated keys the last one stays.
-/

namespace QueryGateway.Json

/-- Reads the given bytes of a literal name. -/
def readName (value : Tree) : Bytes → Input → Except Failure (Tree × Input)
  | [], i => .ok (value, i)
  | b :: rest, i =>
    match i.next? with
    | none => .error (i.fail .endInValue)
    | some (c, after) =>
      if c == b then readName value rest after else .error (after.fail .expectedIdent)

/-- The number of nested lists and maps that is refused. -/
def depthLimit : Nat := 128

/-- What comes before the next item of a list: the end, or the input at the item. -/
def nextItem (first : Bool) (i : Input) : Except Failure (Option Input × Input) :=
  let i := i.skipBlanks
  match i.peek? with
  | none => .error (i.failNext .endInList)
  | some b =>
    if b == 0x5D then .ok (none, i.advance)
    else if first then .ok (some i, i)
    else if b == 0x2C then
      let i := i.advance.skipBlanks
      match i.peek? with
      | none => .error (i.failNext .endInValue)
      | some c => if c == 0x5D then .error (i.failNext .trailingComma) else .ok (some i, i)
    else .error (i.failNext .expectedListCommaOrEnd)

/-- What comes before the next key of a map: the end, or the input at the key. -/
def nextKey (first : Bool) (i : Input) : Except Failure (Option Input × Input) :=
  let i := i.skipBlanks
  match i.peek? with
  | none => .error (i.failNext .endInObject)
  | some b =>
    if b == 0x7D then .ok (none, i.advance)
    else if first then
      if b == 0x22 then .ok (some i, i) else .error (i.failNext .keyMustBeString)
    else if b == 0x2C then
      let i := i.advance.skipBlanks
      match i.peek? with
      | none => .error (i.failNext .endInValue)
      | some c =>
        if c == 0x22 then .ok (some i, i)
        else if c == 0x7D then .error (i.failNext .trailingComma)
        else .error (i.failNext .keyMustBeString)
    else .error (i.failNext .expectedObjectCommaOrEnd)

/-- The input after the colon that follows a key. -/
def readColon (i : Input) : Except Failure Input :=
  let i := i.skipBlanks
  match i.peek? with
  | none => .error (i.failNext .endInObject)
  | some b => if b == 0x3A then .ok i.advance else .error (i.failNext .expectedColon)

mutual

/-- The value that stands next. The depth is what remains of the nesting limit;
the fuel bounds the number of calls. -/
def readValue : Nat → Nat → Input → Except Failure (Tree × Input)
  | 0, _, i => .error (i.fail .recursionLimit)
  | fuel + 1, depth, i =>
    let i := i.skipBlanks
    match i.peek? with
    | none => .error (i.failNext .endInValue)
    | some b =>
      if b == 0x6E then readName .null [0x75, 0x6C, 0x6C] i.advance
      else if b == 0x74 then readName (.bool true) [0x72, 0x75, 0x65] i.advance
      else if b == 0x66 then readName (.bool false) [0x61, 0x6C, 0x73, 0x65] i.advance
      else if b == 0x2D then readNumber true i.advance
      else if isDigitByte b then readNumber false i
      else if b == 0x22 then do
        let (s, after) ← readString i.advance
        .ok (.text s, after)
      else if b == 0x5B then
        if depth ≤ 1 then .error (i.failNext .recursionLimit)
        else readItems fuel (depth - 1) true [] i.advance
      else if b == 0x7B then
        if depth ≤ 1 then .error (i.failNext .recursionLimit)
        else readFields fuel (depth - 1) true [] i.advance
      else .error (i.failNext .expectedValue)

/-- The rest of a list whose items so far are given in reverse. -/
def readItems : Nat → Nat → Bool → List Tree → Input → Except Failure (Tree × Input)
  | 0, _, _, _, i => .error (i.fail .recursionLimit)
  | fuel + 1, depth, first, items, i => do
    match ← nextItem first i with
    | (none, after) => .ok (.list items.reverse, after)
    | (some i, _) =>
      let (t, after) ← readValue fuel depth i
      readItems fuel depth false (t :: items) after

/-- The rest of a map whose fields so far are given. -/
def readFields : Nat → Nat → Bool → Fields → Input → Except Failure (Tree × Input)
  | 0, _, _, _, i => .error (i.fail .recursionLimit)
  | fuel + 1, depth, first, fields, i => do
    match ← nextKey first i with
    | (none, after) => .ok (.map fields, after)
    | (some i, _) =>
      let (key, after) ← readString i.advance
      let after ← readColon after
      let (t, after) ← readValue fuel depth after
      readFields fuel depth false (fields.insert key t) after

end

/-- The tree that the bytes denote. Every list or map takes at most two calls
for each of its bytes, so the fuel never runs out. -/
def read (bytes : Bytes) : Except Failure Tree := do
  let (t, after) ← readValue (2 * bytes.length + 2) depthLimit ⟨bytes, 1, 0⟩
  let after := after.skipBlanks
  match after.peek? with
  | none => .ok t
  | some _ => .error (after.failNext .trailingCharacters)

/-- The tree that a string denotes. -/
def readText (s : String) : Except Failure Tree :=
  read (Utf8.ofString s)

end QueryGateway.Json
