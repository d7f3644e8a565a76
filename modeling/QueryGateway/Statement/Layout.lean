import QueryGateway.Text.Blank

/-!
# Layout of statements

A statement's line breaks are folded into spaces, or its blank lines and
trailing blanks are dropped, or it stays as it is. Both changes act on each
maximal run of blanks that contains a line feed and leave all else alone.
-/

namespace QueryGateway.Statement

/-- How the blanks of a statement are laid out. -/
inductive Layout where
  | singleLine
  | withoutBlankLines
  | verbatim
  deriving DecidableEq, Repr

/-- Replaces each maximal run of blanks by its image under `f`. The blanks just
read are given in reverse. -/
def mapBlankRuns (f : List Char → List Char) (run : List Char) : List Char → List Char
  | [] => f run.reverse
  | c :: rest =>
    if Text.isBlank c then mapBlankRuns f (c :: run) rest
    else f run.reverse ++ c :: mapBlankRuns f [] rest

/-- A run of blanks with a line feed becomes one space. -/
def foldRun (run : List Char) : List Char :=
  if run.contains '\n' then [' '] else run

/-- What follows the last line feed of a run. -/
def indentation (run : List Char) : List Char :=
  (run.reverse.takeWhile (· != '\n')).reverse

/-- A run of blanks with a line feed keeps its last line feed and what follows it. -/
def tidyRun (run : List Char) : List Char :=
  if run.contains '\n' then '\n' :: indentation run else run

namespace Layout

/-- The layout that two switches select; folding wins. -/
def ofSwitches (fold dropBlankLines : Bool) : Layout :=
  if fold then .singleLine
  else if dropBlankLines then .withoutBlankLines
  else .verbatim

/-- The statement in the given layout. -/
def applyChars (layout : Layout) (s : List Char) : List Char :=
  match layout with
  | .singleLine => Text.trim (mapBlankRuns foldRun [] s)
  | .withoutBlankLines => mapBlankRuns tidyRun [] s
  | .verbatim => s

/-- `applyChars` on strings. -/
def apply (layout : Layout) (s : String) : String :=
  String.ofList (layout.applyChars s.toList)

end Layout

end QueryGateway.Statement
