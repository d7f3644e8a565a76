import QueryGateway.Pattern.Basic
import QueryGateway.Pattern.Property

/-!
# Searching for a pattern

A pattern takes each place of a text to the places where a match from there
can end. Sets of places are ascending lists, and a pattern maps a set to the
set of all ends, so that searching does not depend on which of several
matches is preferred.
-/

namespace QueryGateway.Pattern

/-- Ascending places in a text, counted in characters. -/
abbrev Places := List Nat

namespace Places

/-- The places of two sets. -/
def union : Places → Places → Places
  | [], b => b
  | a, [] => a
  | x :: a, y :: b =>
    if x < y then x :: union a (y :: b)
    else if y < x then y :: union (x :: a) b
    else x :: union a b

/-- The places of the first set that are not in the second. -/
def without : Places → Places → Places
  | [], _ => []
  | a, [] => a
  | x :: a, y :: b =>
    if x < y then x :: without a (y :: b)
    else if y < x then without (x :: a) b
    else without a b

/-- Moves a set `n` times, or until it stays as it is. -/
def moveTimes (move : Places → Places) : Nat → Places → Places
  | 0, places => places
  | n + 1, places =>
    let next := move places
    if next == places then places else moveTimes move n next

/-- All places reached from a set by at most `n` moves, where the places outside
`reached` have been reached last. -/
def reachWithin (move : Places → Places) : Nat → Places → Places → Places
  | 0, reached, latest => union reached latest
  | n + 1, reached, latest =>
    let reached := union reached latest
    match without (move latest) reached with
    | [] => reached
    | fresh => reachWithin move n reached fresh

end Places

/-- Whether a character belongs to a word. -/
def Alphabet.isWordChar (alphabet : Alphabet) (c : Char) : Bool :=
  match alphabet with
  | .unicode => wordChars.contains c.toNat
  | .ascii => asciiWordChars.contains c.toNat

/-- Whether a condition holds between two neighbours, which are absent at the
ends of the text. -/
def Anchor.holds (before after : Option Char) : Anchor → Bool
  | textStart => before.isNone
  | textEnd => after.isNone
  | lineStart => before.isNone || before == some '\n'
  | lineEnd => after.isNone || after == some '\n'
  | returnLineStart =>
    before.isNone || before == some '\n' || (before == some '\r' && after != some '\n')
  | returnLineEnd =>
    after.isNone || after == some '\r' || (after == some '\n' && before != some '\r')
  | boundary a => before.any a.isWordChar != after.any a.isWordChar
  | noBoundary a => before.any a.isWordChar == after.any a.isWordChar
  | wordStart a => !before.any a.isWordChar && after.any a.isWordChar
  | wordEnd a => before.any a.isWordChar && !after.any a.isWordChar
  | wordStartHalf a => !before.any a.isWordChar
  | wordEndHalf a => !after.any a.isWordChar

/-- The characters before and after a place. -/
def neighbours (text : Array Char) (place : Nat) : Option Char × Option Char :=
  (if place = 0 then none else text[place - 1]?, text[place]?)

/-- Where matches that start in a set of places can end. -/
def ends (text : Array Char) : Pattern → Places → Places
  | empty, places => places
  | anchor a, places =>
    places.filter fun place =>
      let (before, after) := neighbours text place
      a.holds before after
  | one set, places =>
    (places.filter fun place => text[place]?.any fun c => set.contains c.toNat).map (· + 1)
  | seq p q, places => ends text q (ends text p places)
  | either p q, places => Places.union (ends text p places) (ends text q places)
  | repeated p least none, places =>
    let started := Places.moveTimes (ends text p) least places
    Places.reachWithin (ends text p) (text.size + 1) [] started
  | repeated p least (some most), places =>
    Places.reachWithin (ends text p) (most - least) []
      (Places.moveTimes (ends text p) least places)

/-- Whether some part of a text matches. -/
def occursIn (p : Pattern) (s : List Char) : Bool :=
  let text := s.toArray
  !(ends text p (List.range (text.size + 1))).isEmpty

end QueryGateway.Pattern
