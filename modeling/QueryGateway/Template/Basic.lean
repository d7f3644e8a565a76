import QueryGateway.Template.Body

/-!
# Templates

A template is a named body, compiled once from its source and rendered for
each request with the lookups of that request.
-/

namespace QueryGateway

namespace Template

/-- How a template looks up the values of a request. -/
structure Lookups where
  param : String → String
  flag : String → Bool
  header : String → String

/-- The value of an expression. -/
inductive Value where
  | text (s : String)
  | truth (b : Bool)
  deriving DecidableEq, Repr

/-- A value as text. -/
def Value.toText : Value → String
  | text s => s
  | truth b => if b then "true" else "false"

/-- Whether a value selects the first branch. -/
def Value.isTrue : Value → Bool
  | text s => !s.isEmpty
  | truth b => b

/-- The text that a helper needs. -/
def Value.textFor (helper : Helper) : Value → Except TypeFailure String
  | text s => .ok s
  | truth _ => .error ⟨helper⟩

/-- The fallback if a text is empty, else the text. -/
def orElse (fallback value : String) : String :=
  if value.isEmpty then fallback else value

/-- `null` for the empty text, else the text in single quotes, unescaped. -/
def quote (s : String) : String :=
  if s.isEmpty then "null" else "'" ++ s ++ "'"

/-- The value of an expression. -/
def Expression.eval (look : Lookups) : Expression → Except TypeFailure Value
  | text s => .ok (.text s)
  | param name => do .ok (.text (look.param (← (← name.eval look).textFor .param)))
  | flag name => do .ok (.truth (look.flag (← (← name.eval look).textFor .flag)))
  | header name => do .ok (.text (look.header (← (← name.eval look).textFor .header)))
  | orElse fallback value => do
    let fallback ← fallback.eval look
    let value ← value.eval look
    .ok (.text (Template.orElse (← fallback.textFor .orElse) (← value.textFor .orElse)))
  | quote value => do .ok (.text (Template.quote (← (← value.eval look).textFor .quote)))

/-- The text of a body. -/
def Body.render (look : Lookups) : Body → Except TypeFailure String
  | nothing => .ok ""
  | text s rest => do .ok (String.ofList s ++ (← rest.render look))
  | output e rest => do
    let value ← e.eval look
    .ok (value.toText ++ (← rest.render look))
  | branch condition yes no rest => do
    let value ← condition.eval look
    let chosen ← if value.isTrue then yes.render look else no.render look
    .ok (chosen ++ (← rest.render look))

end Template

/-- A named template. -/
structure Template where
  name : String
  body : Template.Body
  deriving DecidableEq, Repr

namespace Template

/-- The template of a source. -/
def compile (name source : String) : Except Failure Template := do
  let items ← scan false source.toList
  .ok { name, body := ← Body.ofItems items }

/-- The text of a template with the given lookups. -/
def render (t : Template) (look : Lookups) : Except TypeFailure String :=
  t.body.render look

end Template

end QueryGateway
