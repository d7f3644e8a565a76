import QueryGateway.Pattern.CharClass

/-!
# Reading patterns

`Pattern.parse?` reads a pattern from text. Groups that are still open form a
stack of levels; each level has the alternatives that are finished and the
items of the present one. A pattern is refused if its parts nest too deep or
if its compiled form would be too large.
-/

namespace QueryGateway.Pattern

/-- A part of a sequence. Flag settings are items that match the empty text and
cannot be repeated. -/
structure Item where
  pattern : Pattern
  depth : Nat := 0
  repeatable : Bool := true

/-- A group that is being read. -/
structure Level where
  outerFlags : Flags
  branches : List Item := []
  items : List Item := []

namespace Level

/-- Adds an item to the present sequence. -/
def add (level : Level) (item : Item) : Level :=
  { level with items := item :: level.items }

/-- Joins the patterns of items, given last first. -/
def join (op : Pattern → Pattern → Pattern) : List Item → Pattern
  | [] => .empty
  | item :: rest => rest.foldl (fun p earlier => op earlier.pattern p) item.pattern

/-- The present sequence as one item. -/
def sequence (level : Level) : Item :=
  ⟨join .seq level.items, listDepth (level.items.map Item.depth), true⟩

/-- Finishes the present alternative. -/
def alternate (level : Level) : Level :=
  { level with branches := level.sequence :: level.branches, items := [] }

/-- The whole group as one item. -/
def finish (level : Level) : Item :=
  let branches := level.sequence :: level.branches
  ⟨join .either branches, listDepth (branches.map Item.depth), true⟩

/-- Repeats the last item. -/
def repeatLast? (level : Level) (least : Nat) (most : Option Nat) : Option Level :=
  match level.items with
  | [] => none
  | item :: rest =>
    if item.repeatable then
      some { level with items := ⟨item.pattern.times least most, 1 + item.depth, true⟩ :: rest }
    else none

end Level

/-- The flags that a group sets or clears, as read. -/
structure FlagChanges where
  seen : List Char := []
  changed : Flags
  clearing : Bool := false
  dangling : Bool := false

/-- The flags after one letter is set or cleared. -/
def Flags.set? (flags : Flags) (letter : Char) (on : Bool) : Option Flags :=
  match letter with
  | 'i' => some { flags with ignoreCase := on }
  | 'm' => some { flags with multiLine := on }
  | 's' => some { flags with dotAll := on }
  | 'U' => some flags
  | 'u' => some { flags with unicode := on }
  | 'R' => some { flags with returnLines := on }
  | 'x' => some { flags with ignoreBlanks := on }
  | _ => none

/-- The flags up to a colon or a closing parenthesis, with that character. -/
def readFlags? (f : FlagChanges) : List Char → Option (FlagChanges × Char × List Char)
  | [] => none
  | c :: rest =>
    if c == ':' || c == ')' then
      if f.dangling then none else some (f, c, rest)
    else if f.seen.contains c then none
    else if c == '-' then
      readFlags? { f with seen := c :: f.seen, clearing := true, dangling := true } rest
    else do
      let changed ← f.changed.set? c (!f.clearing)
      readFlags? { f with seen := c :: f.seen, changed, dangling := false } rest

/-- Whether a character may stand in the name of a group. -/
def isNameChar (first : Bool) (c : Char) : Bool :=
  c == '_' ||
    (if first then Text.isAlphabetic c
     else c == '.' || c == '[' || c == ']' || Text.isAlphanumeric c)

/-- The name of a group up to its closing bracket. -/
def readGroupName? (s : List Char) : Option (List Char × List Char) := do
  let (name, rest) ← Text.cut '>' s
  match name with
  | [] => none
  | c :: others =>
    if isNameChar true c && others.all (isNameChar false) then some (name, rest) else none

/-- What an opening parenthesis begins. -/
inductive Opening where
  | group (flags : Flags) (name : Option (List Char))
  | setting (flags : Flags)

/-- What stands after an opening parenthesis. Conditions on what precedes or
follows are refused. -/
def readOpeningGroup? (flags : Flags) (s : List Char) : Option (Opening × List Char) :=
  match flags.skip s with
  | '?' :: '=' :: _ => none
  | '?' :: '!' :: _ => none
  | '?' :: '<' :: '=' :: _ => none
  | '?' :: '<' :: '!' :: _ => none
  | '?' :: 'P' :: '<' :: rest => do
    let (name, rest) ← readGroupName? rest
    some (.group flags (some name), rest)
  | '?' :: '<' :: rest => do
    let (name, rest) ← readGroupName? rest
    some (.group flags (some name), rest)
  | '?' :: rest => do
    let (f, mark, rest) ← readFlags? { changed := flags } rest
    if mark == ':' then some (.group f.changed none, rest)
    else if f.seen.isEmpty then none
    else some (.setting f.changed, rest)
  | s => some (.group flags none, s)

/-- A number of repetitions, which may stand between blanks and has 32 bits. The
first part is empty if there are no digits. -/
def readCount? (flags : Flags) (s : List Char) : Option (Option Nat × List Char) :=
  let s := s.dropWhile Text.isBlank
  let digits := s.takeWhile Text.isAsciiDigit
  let rest := (flags.skip (s.drop digits.length)).dropWhile Text.isBlank
  let n := digits.foldl (fun n c => n * 10 + (c.toNat - 48)) 0
  if digits.isEmpty then some (none, rest)
  else if n < 2 ^ 32 then some (some n, rest)
  else none

/-- The bounds of a counted repetition after its opening brace. -/
def readCounts? (flags : Flags) (s : List Char) : Option (Nat × Option Nat × List Char) := do
  let (least, rest) ← readCount? flags (flags.skip s)
  let least ← least
  match rest with
  | '\x7d' :: rest => some (least, some least, rest)
  | ',' :: rest =>
    match flags.skip rest with
    | '\x7d' :: rest => some (least, none, rest)
    | rest => do
      let (most, rest) ← readCount? flags rest
      let most ← most
      match rest with
      | '\x7d' :: rest => if least ≤ most then some (least, some most, rest) else none
      | _ => none
  | _ => none

/-- Drops the question mark that makes a repetition reluctant. -/
def dropReluctant : List Char → List Char
  | '?' :: rest => rest
  | s => s

/-- The item of a literal, any character, a class or an anchor. -/
def Primitive.asItem? (flags : Flags) : Primitive → Option Item
  | literal c asByte => do
    let n ← flags.literalCode? false c asByte
    let set : Text.CodeRanges := .single n
    if flags.unicode || Text.isAscii c then some { pattern := .one (flags.closeCase set) }
    else some { pattern := .one set }
  | set members => some { pattern := .one members }
  | anyChar =>
    if !flags.unicode then none
    else if flags.dotAll then some { pattern := .one .full }
    else if flags.returnLines then
      some { pattern := .one (Text.CodeRanges.complement #[(10, 10), (13, 13)]) }
    else some { pattern := .one (Text.CodeRanges.complement #[(10, 10)]) }
  | anchor a => some { pattern := .anchor a }

/-- The anchor for the start of a line. -/
def Flags.startAnchor (flags : Flags) : Anchor :=
  if !flags.multiLine then .textStart
  else if flags.returnLines then .returnLineStart
  else .lineStart

/-- The anchor for the end of a line. -/
def Flags.endAnchor (flags : Flags) : Anchor :=
  if !flags.multiLine then .textEnd
  else if flags.returnLines then .returnLineEnd
  else .lineEnd

/-- One character or escape outside brackets. -/
def readPrimitive? (flags : Flags) : List Char → Option (Primitive × List Char)
  | [] => none
  | '\\' :: rest => readEscape? flags rest
  | '.' :: rest => some (.anyChar, rest)
  | '^' :: rest => some (.anchor flags.startAnchor, rest)
  | '$' :: rest => some (.anchor flags.endAnchor, rest)
  | c :: rest => some (.literal c false, rest)

/-- A pattern that is being read: the flags in force, the names of groups, the
present level and the levels around it, the innermost first. -/
structure Reading where
  flags : Flags := {}
  names : List (List Char) := []
  level : Level := { outerFlags := {} }
  outer : List Level := []

namespace Reading

/-- Begins what an opening parenthesis begins. A name may be used once. -/
def begin? (r : Reading) : Opening → Option Reading
  | .setting flags =>
    some { r with flags, level := r.level.add { pattern := .empty, repeatable := false } }
  | .group flags name =>
    if name.any r.names.contains then none
    else
      some { flags, names := name.toList ++ r.names, level := { outerFlags := r.flags },
             outer := r.level :: r.outer }

/-- Closes the present group, which takes its flags with it. -/
def end? (r : Reading) : Option Reading :=
  match r.outer with
  | [] => none
  | parent :: outer =>
    let item := r.level.finish
    some { r with
      flags := r.level.outerFlags,
      level := parent.add { item with depth := 1 + item.depth },
      outer }

/-- The reading with its last item repeated. -/
def repeatLast? (r : Reading) (least : Nat) (most : Option Nat) : Option Reading := do
  some { r with level := ← r.level.repeatLast? least most }

/-- Reads what stands next. -/
def step? (r : Reading) (s : List Char) : Option (Reading × List Char) :=
  match s with
  | '(' :: rest => do
    let (opening, rest) ← readOpeningGroup? r.flags rest
    some (← r.begin? opening, rest)
  | ')' :: rest => do some (← r.end?, rest)
  | '|' :: rest => some ({ r with level := r.level.alternate }, rest)
  | '[' :: rest => do
    let (part, rest) ← readClass? r.flags rest
    some ({ r with level := r.level.add { pattern := .one part.set, depth := part.depth } }, rest)
  | '?' :: rest => do some (← r.repeatLast? 0 (some 1), dropReluctant rest)
  | '*' :: rest => do some (← r.repeatLast? 0 none, dropReluctant rest)
  | '+' :: rest => do some (← r.repeatLast? 1 none, dropReluctant rest)
  | '\x7b' :: rest => do
    let (least, most, rest) ← readCounts? r.flags rest
    some (← r.repeatLast? least most, dropReluctant (r.flags.skip rest))
  | s => do
    let (p, rest) ← readPrimitive? r.flags s
    some ({ r with level := r.level.add (← p.asItem? r.flags) }, rest)

/-- Reads to the end of the text, where all groups must be closed. -/
def run? (r : Reading) : Nat → List Char → Option Item
  | 0, _ => none
  | fuel + 1, s =>
    match r.flags.skip s with
    | [] => if r.outer.isEmpty then some r.level.finish else none
    | s => do
      let (r, rest) ← r.step? s
      r.run? fuel rest

end Reading

/-- How deep the parts of a pattern may nest. -/
def depthLimit : Nat := 250

/-- The pattern that a text describes. -/
def parse? (s : List Char) : Option Pattern := do
  let item ← ({} : Reading).run? (s.length + 1) s
  if item.depth ≤ depthLimit && item.pattern.weight ≤ weightLimit then some item.pattern
  else none

end QueryGateway.Pattern
