/-!
# Tables of code points

A class of characters is stored as ascending, disjoint ranges of code points.
A table is written as text, with hexadecimal bounds (`41-5A`) or single code
points (`AA`) between spaces, and membership is decided by binary search.
-/

namespace QueryGateway.Text

/-- Ascending and disjoint ranges of code points, both ends included. -/
abbrev CodeRanges := Array (Nat × Nat)

namespace CodeRanges

/-- The value of a hexadecimal digit; other characters count as zero. -/
def digit (c : Char) : Nat :=
  let n := c.toNat
  if 48 ≤ n && n ≤ 57 then n - 48
  else if 65 ≤ n && n ≤ 70 then n - 55
  else if 97 ≤ n && n ≤ 102 then n - 87
  else 0

/-- The reading of a table in progress: the finished ranges, the lower bound of
the present one once its upper bound has begun, and the bound being read. -/
structure Reading where
  finished : CodeRanges := #[]
  low : Option Nat := none
  bound : Nat := 0

/-- Adds the present range to the finished ones. -/
def Reading.close (r : Reading) : Reading :=
  { finished := r.finished.push (r.low.getD r.bound, r.bound) }

/-- Reads one character of a table. -/
def Reading.step (r : Reading) (c : Char) : Reading :=
  if c == ' ' then r.close
  else if c == '-' then { r with low := some r.bound, bound := 0 }
  else { r with bound := r.bound * 16 + digit c }

/-- The ranges that a table text lists. -/
def ofString (table : String) : CodeRanges :=
  if table.isEmpty then #[]
  else ((table.toList.foldl Reading.step {}).close).finished

/-- The ranges that the lines of a table list. -/
def ofLines (lines : List String) : CodeRanges :=
  (lines.map ofString).foldl (· ++ ·) #[]

/-- Binary search for `n` among the ranges with index from `lo` to below `hi`. -/
def searchBetween (t : CodeRanges) (n lo hi : Nat) : Bool :=
  if lo < hi then
    let mid := (lo + hi) / 2
    match t[mid]? with
    | none => false
    | some (first, last) =>
      if n < first then searchBetween t n lo mid
      else if last < n then searchBetween t n (mid + 1) hi
      else true
  else false
termination_by hi - lo

/-- Whether a code point lies in one of the ranges. -/
def contains (t : CodeRanges) (n : Nat) : Bool :=
  searchBetween t n 0 t.size

end CodeRanges

end QueryGateway.Text
