import QueryGateway.Template.Expression
import QueryGateway.Template.Token

/-!
# Failures of templates

Why a source is no template, and why a template cannot be rendered.
-/

namespace QueryGateway.Template

/-- The actions that end a branch. -/
inductive Closer where
  | otherwise
  | done
  deriving DecidableEq, Repr

/-- The word of a closing action. -/
def Closer.keyword : Closer → String
  | otherwise => "else"
  | done => "end"

/-- Why a source is no template. -/
inductive Failure where
  | unclosedAction
  | unclosedComment
  | missingValue
  | tokensAfter (closer : Closer)
  | stray (closer : Closer)
  | secondElse
  | missingEnd
  | unterminatedQuoted
  | unterminatedRaw
  | unknownEscape (c : Char)
  | unexpectedChar (c : Char)
  | leftover (token : Token)
  | noCommand (found : Option Token)
  | noFunction (found : Option Token)
  | noClosing (found : Option Token)
  | bareArgument (name : String)
  | notDefined (name : String)
  | argumentCount (helper : Helper) (got : Nat)
  deriving DecidableEq, Repr

/-- The text of a failure. -/
def Failure.message : Failure → String
  | unclosedAction => "unclosed action"
  | unclosedComment => "unclosed comment"
  | missingValue => "missing value for command"
  | tokensAfter closer => s!"unexpected tokens after {closer.keyword}"
  | stray closer => s!"unexpected \x7b\x7b{closer.keyword}\x7d\x7d"
  | secondElse => "multiple \x7b\x7belse\x7d\x7d in one \x7b\x7bif\x7d\x7d"
  | missingEnd => "missing \x7b\x7bend\x7d\x7d"
  | unterminatedQuoted => "unterminated quoted string"
  | unterminatedRaw => "unterminated raw string"
  | unknownEscape c => s!"unknown escape sequence \\{c}"
  | unexpectedChar c => s!"unexpected {Text.showChar c} in action"
  | leftover token => s!"unexpected {token.shown}"
  | noCommand found => s!"unexpected {Token.shownOption found}"
  | noFunction found => "expected function after '|', found " ++ Token.shownOption found
  | noClosing found => "expected ')', found " ++ Token.shownOption found
  | bareArgument name => s!"{name} used as an argument must be parenthesized"
  | notDefined name => s!"function {name} not defined"
  | argumentCount helper got =>
    s!"wrong number of args for {helper.name}: want {helper.arity} got {got}"

/-- A helper was given a truth value where it needs a text. -/
structure TypeFailure where
  helper : Helper
  deriving DecidableEq, Repr

/-- The text of a type failure. -/
def TypeFailure.message (e : TypeFailure) : String :=
  s!"{e.helper.name} expects a string argument, got bool"

end QueryGateway.Template
