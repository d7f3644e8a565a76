import QueryGateway.Template.Action

/-!
# Bodies of templates

A body is a sequence of texts, outputs and branches, and each branch holds two
bodies. The pieces of a source are assembled from the last one to the first:
what is known of a suffix is the body up to its first unmatched closing action,
then that action, and so on.
-/

namespace QueryGateway.Template

/-- A sequence of texts, outputs and branches. -/
inductive Body where
  | nothing
  | text (s : List Char) (rest : Body)
  | output (e : Expression) (rest : Body)
  | branch (condition : Expression) (yes no rest : Body)
  deriving DecidableEq, Repr

/-- What a suffix of the pieces gives: a body, a body before an unmatched closing
action, or a failure before any such action. -/
inductive Suffix where
  | whole (body : Body)
  | closed (body : Body) (k : Closer) (rest : Suffix)
  | failed (e : Failure)
  deriving DecidableEq, Repr

namespace Suffix

/-- Extends the first body. -/
def extend (f : Body → Body) : Suffix → Suffix
  | whole body => whole (f body)
  | closed body k rest => closed (f body) k rest
  | failed e => failed e

/-- The branch whose second body comes first. -/
def openElse (condition : Expression) (yes : Body) : Suffix → Suffix
  | whole _ => failed .missingEnd
  | closed no .done rest => rest.extend (.branch condition yes no)
  | closed _ .otherwise _ => failed .secondElse
  | failed e => failed e

/-- The branch whose first body comes first. -/
def openBranch (condition : Expression) : Suffix → Suffix
  | whole _ => failed .missingEnd
  | closed yes .done rest => rest.extend (.branch condition yes .nothing)
  | closed yes .otherwise rest => rest.openElse condition yes
  | failed e => failed e

/-- Puts a piece before a suffix. -/
def push (item : Item) (suffix : Suffix) : Suffix :=
  match item with
  | .text s => suffix.extend (.text s)
  | .output e => suffix.extend (.output e)
  | .condition e => suffix.openBranch e
  | .closer k => closed .nothing k suffix

/-- What the pieces of a source give. -/
def ofItems (items : List Item) : Suffix :=
  items.foldr push (whole .nothing)

/-- The body of a source, in which no closing action is unmatched. -/
def toBody : Suffix → Except Failure Body
  | whole body => .ok body
  | closed _ k _ => .error (.stray k)
  | failed e => .error e

end Suffix

/-- The body that some pieces form. -/
def Body.ofItems (items : List Item) : Except Failure Body :=
  (Suffix.ofItems items).toBody

end QueryGateway.Template
