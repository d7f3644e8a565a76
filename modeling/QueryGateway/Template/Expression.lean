/-!
# Expressions of templates

Templates call a closed set of helpers on request values. An expression is a
literal text or a call with exactly as many arguments as its helper takes.
-/

namespace QueryGateway.Template

/-- The helpers that a template can call. -/
inductive Helper where
  | param
  | flag
  | header
  | orElse
  | quote
  deriving DecidableEq, Repr

/-- The name of a helper in templates. -/
def Helper.name : Helper → String
  | param => "Param"
  | flag => "Bool"
  | header => "Header"
  | orElse => "OrElse"
  | quote => "Quote"

/-- The number of arguments of a helper. -/
def Helper.arity : Helper → Nat
  | orElse => 2
  | _ => 1

/-- All helpers. -/
def Helper.all : List Helper := [param, flag, header, orElse, quote]

/-- The helper with a name. -/
def Helper.named? (name : String) : Option Helper :=
  Helper.all.find? fun h => h.name == name

/-- An expression. -/
inductive Expression where
  | text (s : String)
  | param (name : Expression)
  | flag (name : Expression)
  | header (name : Expression)
  | orElse (fallback value : Expression)
  | quote (value : Expression)
  deriving DecidableEq, Repr

/-- The call of a helper, if the number of arguments is right. -/
def Helper.call? : Helper → List Expression → Option Expression
  | param, [name] => some (.param name)
  | flag, [name] => some (.flag name)
  | header, [name] => some (.header name)
  | orElse, [fallback, value] => some (.orElse fallback value)
  | quote, [value] => some (.quote value)
  | _, _ => none

/-- A call exists exactly for the right number of arguments. -/
theorem Helper.call?_isSome_iff (h : Helper) (arguments : List Expression) :
    (h.call? arguments).isSome ↔ arguments.length = h.arity := by
  cases h <;> rcases arguments with _ | ⟨a, _ | ⟨b, _ | ⟨c, rest⟩⟩⟩ <;>
    simp [call?, arity]

end QueryGateway.Template
