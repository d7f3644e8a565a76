import QueryGateway.Path.Typed

/-!
# Views of a configuration

A view is a node of a configuration. Its typed readings never fail: whatever
cannot be resolved or read gives the default. A cursor walks the list at an
expression; each step resolves the expression with the index appended.
-/

namespace QueryGateway

/-- A node of a configuration. -/
structure View where
  tree : Tree := .null

namespace View

/-- The view of the node at an expression; an absent node gives the empty view. -/
def get (v : View) (expr : String) : Except Path.Failure View :=
  (Path.get v.tree expr).map fun node => ⟨node.getD .null⟩

/-- The text at an expression. Empty texts give the default as well. -/
def text (v : View) (expr dflt : String) : String :=
  match Path.getText v.tree expr dflt with
  | .ok s => if s.isEmpty then dflt else s
  | .error _ => dflt

/-- The 32-bit integer at an expression. -/
def int (v : View) (expr : String) (dflt : Int) : Int :=
  (Path.getInt v.tree expr dflt).toOption.getD dflt

/-- The 64-bit integer at an expression. -/
def long (v : View) (expr : String) (dflt : Int) : Int :=
  (Path.getLong v.tree expr dflt).toOption.getD dflt

/-- The truth value at an expression. -/
def bool (v : View) (expr : String) (dflt : Bool) : Bool :=
  (Path.getBool v.tree expr dflt).toOption.getD dflt

/-- The 32-bit real at an expression. -/
def float (v : View) (expr : String) (dflt : Binary32) : Binary32 :=
  (Path.getFloat v.tree expr dflt).toOption.getD dflt

/-- The 64-bit real at an expression. -/
def double (v : View) (expr : String) (dflt : Binary64) : Binary64 :=
  (Path.getDouble v.tree expr dflt).toOption.getD dflt

/-- The number of items of the list at an expression. -/
def size (v : View) (expr : String) : Except Path.Failure Nat :=
  Path.size v.tree expr

end View

/-- A position in the list at an expression. -/
structure Cursor where
  view : View
  expr : String
  size : Nat
  index : Nat := 0

namespace Cursor

/-- The expression of the item with the given index. -/
def itemExpr (expr : String) (index : Nat) : String :=
  s!"{expr}[{index}]"

/-- The number of items that are left. -/
def remaining (c : Cursor) : Nat :=
  c.size - c.index

/-- The next item with the cursor after it, or nothing at the end. -/
def next? (c : Cursor) : Option (Except Path.Failure View × Cursor) :=
  if c.index < c.size then
    some (c.view.get (itemExpr c.expr c.index), { c with index := c.index + 1 })
  else none

/-- The cursor back at the start. -/
def reset (c : Cursor) : Cursor :=
  { c with index := 0 }

/-- The remaining items, in order. -/
def items (c : Cursor) : List (Except Path.Failure View) :=
  (List.range' c.index c.remaining).map fun i => c.view.get (itemExpr c.expr i)

end Cursor

/-- A cursor at the start of the list at an expression. -/
def View.cursor (v : View) (expr : String) : Except Path.Failure Cursor :=
  (v.size expr).map fun n => { view := v, expr := expr, size := n }

/-- The views of the items of the list at an expression, or the first failure. -/
def View.items (v : View) (expr : String) : Except Path.Failure (List (Except Path.Failure View)) :=
  (v.cursor expr).map Cursor.items

end QueryGateway
