import QueryGateway.Text.Quoted

/-!
# Tokens of actions

The text of an action is a sequence of literals, names, parentheses and
bars. A failure of a template keeps the token that stands in its way.
-/

namespace QueryGateway.Template

/-- A token of an action. -/
inductive Token where
  | literal (s : String)
  | name (s : String)
  | opening
  | closing
  | bar
  deriving DecidableEq, Repr

/-- A token as failures show it. -/
def Token.shown : Token → String
  | literal s => s!"Str({Text.showString s})"
  | name s => s!"Ident({Text.showString s})"
  | opening => "LParen"
  | closing => "RParen"
  | bar => "Pipe"

/-- A token that may be missing, as failures show it. -/
def Token.shownOption : Option Token → String
  | none => "None"
  | some t => s!"Some({t.shown})"

end QueryGateway.Template
