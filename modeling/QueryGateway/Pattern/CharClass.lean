import QueryGateway.Pattern.Escape

/-!
# Bracketed classes

A bracketed class lists characters, ranges, named classes and nested
brackets, and combines lists by intersection, difference and symmetric
difference, which bind equally and to the left. While a class is read, the
brackets that are still open form a stack.
-/

namespace QueryGateway.Pattern

open Text (CodeRanges)

/-- A finished part of a class: its characters, and how deep its parts nest. -/
structure ClassPart where
  set : CodeRanges
  depth : Nat := 0
  deriving Repr

/-- The depth of a list of parts, where a list of two or more is a level of its own. -/
def listDepth (depths : List Nat) : Nat :=
  match depths with
  | [] => 0
  | [d] => d
  | ds => 1 + ds.foldl max 0

/-- The operators between the lists of a class. -/
inductive ClassOperator where
  | intersection
  | difference
  | symmetricDifference
  deriving DecidableEq, Repr

/-- The characters that an operator selects. -/
def ClassOperator.apply (op : ClassOperator) (a b : CodeRanges) : CodeRanges :=
  match op with
  | .intersection => a.inter b
  | .difference => a.diff b
  | .symmetricDifference => a.symmDiff b

/-- An open bracket: whether it is negated, the operator that waits for its
right side with the left side, and the members of the present list, last first. -/
structure OpenClass where
  negated : Bool
  left : Option (ClassPart × ClassOperator) := none
  members : List ClassPart := []
  deriving Repr

namespace OpenClass

/-- Adds a member to the present list. -/
def add (k : OpenClass) (part : ClassPart) : OpenClass :=
  { k with members := part :: k.members }

/-- What the bracket holds so far. -/
def content (flags : Flags) (k : OpenClass) : ClassPart :=
  let list : ClassPart :=
    ⟨.unions (k.members.map ClassPart.set), listDepth (k.members.map ClassPart.depth)⟩
  match k.left with
  | none => list
  | some (left, op) =>
    ⟨op.apply (flags.closeCase left.set) (flags.closeCase list.set),
      1 + max left.depth list.depth⟩

/-- The bracket with an operator after what it holds so far. -/
def operate (flags : Flags) (op : ClassOperator) (k : OpenClass) : OpenClass :=
  { k with left := some (k.content flags, op), members := [] }

/-- The finished class. -/
def close? (flags : Flags) (k : OpenClass) : Option ClassPart := do
  let part := k.content flags
  some ⟨← flags.negateIf k.negated (flags.closeCase part.set), 1 + part.depth⟩

end OpenClass

/-- The hyphens that stand as members at the start of a class. -/
def readLeadingHyphens (flags : Flags) (k : OpenClass) (fuel : Nat) (s : List Char) :
    OpenClass × List Char :=
  match fuel, s with
  | fuel + 1, '-' :: rest =>
    readLeadingHyphens flags (k.add ⟨.single 0x2D, 0⟩) fuel (flags.skip rest)
  | _, s => (k, s)

/-- The start of a class after its opening bracket: a negation, and the hyphens
or the closing bracket that stand as members. -/
def readOpening? (flags : Flags) (s : List Char) : Option (OpenClass × List Char) :=
  let (negated, s) :=
    match flags.skip s with
    | '^' :: rest => (true, flags.skip rest)
    | s => (false, s)
  let (k, s) := readLeadingHyphens flags { negated } s.length s
  let (k, s) :=
    match k.members, s with
    | [], ']' :: rest => (k.add ⟨.single 0x5D, 0⟩, flags.skip rest)
    | _, s => (k, s)
  if s.isEmpty then none else some (k, s)

/-- A class of the C locale after the bracket of its `[:`. -/
def readLocaleClass? (s : List Char) : Option (CodeRanges × Bool × List Char) :=
  match s with
  | ':' :: rest =>
    let (negated, rest) :=
      match rest with
      | '^' :: rest => (true, rest)
      | rest => (false, rest)
    match Text.cut ':' rest with
    | some (name, ']' :: rest) => (localeClass? name).map fun set => (set, negated, rest)
    | _ => none
  | _ => none

/-- One character of a class or an escape in it. -/
def readMember? (flags : Flags) : List Char → Option (Primitive × List Char)
  | [] => none
  | '\\' :: rest => readEscape? flags rest
  | c :: rest => some (.literal c false, rest)

/-- A primitive as a member of a class. -/
def Primitive.asPart? (flags : Flags) : Primitive → Option ClassPart
  | literal c asByte => do some ⟨.single (← flags.literalCode? true c asByte), 0⟩
  | set members => some ⟨members, 0⟩
  | anyChar => none
  | anchor _ => none

/-- A primitive as an end of a range. -/
def Primitive.asBound? (flags : Flags) : Primitive → Option Nat
  | literal c asByte => flags.literalCode? true c asByte
  | _ => none

/-- A member or a range of members. A hyphen before a closing bracket or another
hyphen makes no range. -/
def readRange? (flags : Flags) (s : List Char) : Option (ClassPart × List Char) := do
  let (p, rest) ← readMember? flags s
  let rest := flags.skip rest
  match rest with
  | [] => none
  | '-' :: after =>
    match flags.skip after with
    | [] => none
    | ']' :: _ => some (← p.asPart? flags, rest)
    | '-' :: _ => some (← p.asPart? flags, rest)
    | after => do
      let (q, rest) ← readMember? flags after
      let first ← p.asBound? flags
      let last ← q.asBound? flags
      if first ≤ last then some (⟨#[(first, last)], 0⟩, rest) else none
  | rest => some (← p.asPart? flags, rest)

/-- The rest of a class inside some open brackets, the innermost first. -/
def readClassRest? (flags : Flags) : Nat → OpenClass → List OpenClass → List Char →
    Option (ClassPart × List Char)
  | 0, _, _, _ => none
  | fuel + 1, k, outer, s =>
    match flags.skip s with
    | [] => none
    | '[' :: rest =>
      match readLocaleClass? rest with
      | some (set, negated, rest) => do
        let set ← flags.negateIf negated (flags.closeCase set)
        readClassRest? flags fuel (k.add ⟨set, 0⟩) outer rest
      | none => do
        let (inner, rest) ← readOpening? flags rest
        readClassRest? flags fuel inner (k :: outer) rest
    | ']' :: rest => do
      let part ← k.close? flags
      match outer with
      | [] => some (part, rest)
      | parent :: outer => readClassRest? flags fuel (parent.add part) outer rest
    | '&' :: '&' :: rest => readClassRest? flags fuel (k.operate flags .intersection) outer rest
    | '-' :: '-' :: rest => readClassRest? flags fuel (k.operate flags .difference) outer rest
    | '~' :: '~' :: rest =>
      readClassRest? flags fuel (k.operate flags .symmetricDifference) outer rest
    | s => do
      let (part, rest) ← readRange? flags s
      readClassRest? flags fuel (k.add part) outer rest

/-- A bracketed class after its opening bracket. -/
def readClass? (flags : Flags) (s : List Char) : Option (ClassPart × List Char) := do
  let (k, rest) ← readOpening? flags s
  readClassRest? flags (rest.length + 1) k [] rest

end QueryGateway.Pattern
