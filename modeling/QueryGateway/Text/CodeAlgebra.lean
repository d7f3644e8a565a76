import QueryGateway.Text.CodeRanges
import QueryGateway.Text.Folding

/-!
# Set operations on code points

Union, complement, intersection and difference of sets of code points, and
the closure of a set under case. The results are in normal form again:
ascending ranges that neither overlap nor touch.
-/

namespace QueryGateway.Text

namespace CodeRanges

/-- The largest code point. -/
def maxCode : Nat := 0x10FFFF

/-- Adds a range to a normal form, last range first, that begins no later. -/
def pushRange (done : List (Nat × Nat)) (range : Nat × Nat) : List (Nat × Nat) :=
  match done with
  | [] => [range]
  | (first, last) :: rest =>
    if range.1 ≤ last + 1 then (first, max last range.2) :: rest else range :: done

/-- The normal form of a list of ranges. -/
def ofList (ranges : List (Nat × Nat)) : CodeRanges :=
  ((ranges.mergeSort fun a b => a.1 ≤ b.1).foldl pushRange []).reverse.toArray

/-- The set of one code point. -/
def single (n : Nat) : CodeRanges := #[(n, n)]

/-- The set of all code points. -/
def full : CodeRanges := #[(0, maxCode)]

/-- The code points in one of two sets. -/
def union (a b : CodeRanges) : CodeRanges :=
  ofList (a.toList ++ b.toList)

/-- The code points in one of some sets. -/
def unions (sets : List CodeRanges) : CodeRanges :=
  ofList (sets.flatMap Array.toList)

/-- The gaps between ascending ranges from `n` on. -/
def gapsFrom (n : Nat) : List (Nat × Nat) → List (Nat × Nat)
  | [] => if n ≤ maxCode then [(n, maxCode)] else []
  | (first, last) :: rest =>
    if n < first then (n, first - 1) :: gapsFrom (last + 1) rest else gapsFrom (last + 1) rest

/-- The code points outside a set. -/
def complement (a : CodeRanges) : CodeRanges :=
  (gapsFrom 0 a.toList).toArray

/-- The code points in both sets. -/
def inter (a b : CodeRanges) : CodeRanges :=
  complement (union (complement a) (complement b))

/-- The code points in the first set but not in the second. -/
def diff (a b : CodeRanges) : CodeRanges :=
  inter a (complement b)

/-- The code points in exactly one of two sets. -/
def symmDiff (a b : CodeRanges) : CodeRanges :=
  union (diff a b) (diff b a)

/-- The set with all code points that differ from a member only in case. -/
def closeCase (a : CodeRanges) : CodeRanges :=
  let mates := foldTable.toList.flatMap fun (n, mates) => if a.contains n then mates else []
  ofList (a.toList ++ mates.map fun n => (n, n))

/-- The ASCII characters. -/
def ascii : CodeRanges := #[(0, 127)]

/-- Whether a set holds only ASCII characters. -/
def isAscii (a : CodeRanges) : Bool :=
  a.all fun (_, last) => last ≤ 127

end CodeRanges

end QueryGateway.Text
