import QueryGateway.Number.Power
import QueryGateway.Text.CodeRanges

/-!
# Patterns

A pattern describes a set of texts: single characters from a set, conditions
on a place in the text, sequences, alternatives and repetitions. Patterns are
built by the constructors and by `Pattern.times`, which keeps repetitions of
the empty text small.
-/

namespace QueryGateway

namespace Pattern

/-- Which characters count as parts of a word. -/
inductive Alphabet where
  | unicode
  | ascii
  deriving DecidableEq, Repr

/-- Conditions on a place in a text. -/
inductive Anchor where
  | textStart
  | textEnd
  | lineStart
  | lineEnd
  | returnLineStart
  | returnLineEnd
  | boundary (a : Alphabet)
  | noBoundary (a : Alphabet)
  | wordStart (a : Alphabet)
  | wordEnd (a : Alphabet)
  | wordStartHalf (a : Alphabet)
  | wordEndHalf (a : Alphabet)
  deriving DecidableEq, Repr

end Pattern

/-- A pattern for texts. -/
inductive Pattern where
  | empty
  | anchor (a : Pattern.Anchor)
  | one (set : Text.CodeRanges)
  | seq (p q : Pattern)
  | either (p q : Pattern)
  | repeated (p : Pattern) (least : Nat) (most : Option Nat)
  deriving Repr

namespace Pattern

/-- Whether a pattern matches no text but the empty one. -/
def isEmptyOnly : Pattern → Bool
  | empty => true
  | anchor _ => true
  | one _ => false
  | seq p q => p.isEmptyOnly && q.isEmptyOnly
  | either p q => p.isEmptyOnly && q.isEmptyOnly
  | repeated p _ most => p.isEmptyOnly || most == some 0

/-- A repetition. More than one copy of the empty text is one copy. -/
def times (p : Pattern) (least : Nat) (most : Option Nat) : Pattern :=
  let (least, most) :=
    if p.isEmptyOnly then (min least 1, some (min (most.getD 1) 1)) else (least, most)
  if most == some 0 then empty
  else if least == 1 && most == some 1 then p
  else repeated p least most

/-- The memory that a compiled set of characters takes, in bytes. -/
def setWeight (set : Text.CodeRanges) : Nat :=
  match set.toList with
  | [] => 32
  | [(first, last)] =>
    if first == last then 32 * (Char.ofNat first).utf8Size
    else if last ≤ 127 then 72
    else 64 * 9
  | ranges =>
    if ranges.all fun (_, last) => last ≤ 127 then 64 + 8 * ranges.length
    else 64 * (ranges.length + 8)

/-- The memory that a compiled pattern takes, in bytes. Every copy of a repeated
part counts. -/
def weight : Pattern → Nat
  | empty => 16
  | anchor _ => 32
  | one set => setWeight set
  | seq p q => p.weight + q.weight
  | either p q => p.weight + q.weight + 40
  | repeated p least none => p.weight * max least 1 + 32
  | repeated p _ (some most) => (p.weight + 32) * most

/-- The memory that a compiled pattern may take, in bytes. -/
def weightLimit : Nat := 10 * 2 ^ 20

end Pattern

end QueryGateway
