import QueryGateway.Text.Letter
import QueryGateway.Text.Split

/-!
# The words of a name

A name is a sequence of words. Whatever is not alphanumeric separates words,
and inside an alphanumeric run a capital letter starts a word after a small
letter or a digit, and also after a capital letter if a small letter follows.
-/

namespace QueryGateway.Naming

/-- Whether a word starts at `c`, which stands between `before` and `after`
in an alphanumeric run. -/
def startsWord (before c : Char) (after : Option Char) : Bool :=
  Text.isUpper c &&
    (Text.isLower before || Text.isAsciiDigit before ||
      (Text.isUpper before && after.any Text.isLower))

/-- The words of an alphanumeric run. -/
def wordsOfRun : List Char → List (List Char)
  | [] => []
  | [c] => [[c]]
  | c :: d :: rest =>
    match wordsOfRun (d :: rest) with
    | [] => [[c]]
    | word :: others =>
      if startsWord c d rest.head? then [c] :: word :: others
      else (c :: word) :: others

/-- The maximal alphanumeric runs of a name. -/
def runs (name : List Char) : List (List Char) :=
  (Text.pieces (fun c => !Text.isAlphanumeric c) name).filter (fun run => !run.isEmpty)

/-- The words of a name. -/
def words (name : List Char) : List (List Char) :=
  (runs name).flatMap wordsOfRun

/-- Splitting a run into words keeps every character in its place. -/
theorem flatten_wordsOfRun (run : List Char) : (wordsOfRun run).flatten = run := by
  fun_induction wordsOfRun run with
  | case1 => rfl
  | case2 => rfl
  | case3 c d rest hnil ih => simp [hnil] at ih
  | case4 c d rest word others hcons hstart ih =>
    rw [hcons] at ih
    simpa using ih
  | case5 c d rest word others hcons hstart ih =>
    rw [hcons] at ih
    simpa using ih

end QueryGateway.Naming
