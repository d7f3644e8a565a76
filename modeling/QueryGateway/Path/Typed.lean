import QueryGateway.Path.Basic

/-!
# Reading nodes as typed values

The text of the node at an expression is read as a number or a truth value.
An absent node gives the default. Integers may be written as reals without a
fractional part; the reading rounds to a double first and clamps to 64 bits.
-/

namespace QueryGateway.Path

/-- The text of the node at an expression, or the default when it is absent. -/
def getText (t : Tree) (expr dflt : String) : Except Failure String :=
  (get t expr).map fun
    | some v => v.toText
    | none => dflt

/-- The node at an expression read by `read?`, or the default when it is absent. -/
def getAs {α : Type} (t : Tree) (expr : String) (dflt : α) (target : Target)
    (read? : String → Option α) : Except Failure α := do
  let s ← getText t expr ""
  if s.isEmpty then .ok dflt
  else
    match read? s with
    | some v => .ok v
    | none => .error (.unreadable s target)

/-- The least 64-bit integer. -/
def leastLong : Int := -2 ^ 63

/-- The greatest 64-bit integer. -/
def greatestLong : Int := 2 ^ 63 - 1

/-- The integer that a real without fractional part stands for, if it lies
between `-2 ^ 63` and `2 ^ 63`; the upper end is clamped. -/
def integerOfReal? (x : Binary64) : Option Int :=
  match x.toInt? with
  | none => none
  | some z =>
    if leastLong ≤ z && z ≤ greatestLong + 1 then some (min z greatestLong) else none

/-- The 64-bit integer that a text denotes. -/
def readLong? (s : String) : Option Int :=
  match Number.readInt? s.toList with
  | some z =>
    if leastLong ≤ z && z ≤ greatestLong then some z
    else (Number.toBinary? .double s).bind integerOfReal?
  | none => (Number.toBinary? .double s).bind integerOfReal?

/-- The 32-bit integer that a text denotes. -/
def readInt? (s : String) : Option Int :=
  (readLong? s).bind fun z => if -2 ^ 31 ≤ z && z < 2 ^ 31 then some z else none

/-- The truth value that a text denotes. -/
def readBool? (s : String) : Option Bool :=
  if ["1", "t", "T", "TRUE", "true", "True"].contains s then some true
  else if ["0", "f", "F", "FALSE", "false", "False"].contains s then some false
  else none

/-- The 32-bit integer at an expression. -/
def getInt (t : Tree) (expr : String) (dflt : Int) : Except Failure Int :=
  getAs t expr dflt .int readInt?

/-- The 64-bit integer at an expression. -/
def getLong (t : Tree) (expr : String) (dflt : Int) : Except Failure Int :=
  getAs t expr dflt .long readLong?

/-- The truth value at an expression. -/
def getBool (t : Tree) (expr : String) (dflt : Bool) : Except Failure Bool :=
  getAs t expr dflt .bool readBool?

/-- The 32-bit real at an expression. -/
def getFloat (t : Tree) (expr : String) (dflt : Binary32) : Except Failure Binary32 :=
  getAs t expr dflt .float (Number.toBinary? .single)

/-- The 64-bit real at an expression. -/
def getDouble (t : Tree) (expr : String) (dflt : Binary64) : Except Failure Binary64 :=
  getAs t expr dflt .double (Number.toBinary? .double)

end QueryGateway.Path
