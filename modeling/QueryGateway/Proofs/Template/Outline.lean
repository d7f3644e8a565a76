import QueryGateway.Template.Basic

/-!
# Outlines of templates

An outline is a template before it is written down: texts, outputs and branches,
nested to any depth. It can be printed in the syntax of templates, and it has a
value of its own, which does not go through that syntax.
-/

namespace QueryGateway.Template

/-! ## Printing expressions -/

/-- A character inside a quoted literal. Only quotes and backslashes are escaped. -/
def escapeLiteral (c : Char) : List Char :=
  if c = '"' ∨ c = '\\' then ['\\', c] else [c]

/-- A literal in double quotes. -/
def printLiteral (s : List Char) : List Char :=
  '"' :: s.flatMap escapeLiteral ++ ['"']

namespace Expression

/-- An argument, given how the expression is printed: a call stands in parentheses. -/
def printArgument (printed : List Char) : Expression → List Char
  | text _ => printed
  | _ => '(' :: printed ++ [')']

/-- An expression as an action writes it. -/
def print : Expression → List Char
  | text s => printLiteral s.toList
  | param name => Helper.param.name.toList ++ ' ' :: name.printArgument name.print
  | flag name => Helper.flag.name.toList ++ ' ' :: name.printArgument name.print
  | header name => Helper.header.name.toList ++ ' ' :: name.printArgument name.print
  | orElse fallback value =>
    Helper.orElse.name.toList ++ ' ' :: fallback.printArgument fallback.print ++
      ' ' :: value.printArgument value.print
  | quote value => Helper.quote.name.toList ++ ' ' :: value.printArgument value.print

/-- The value of an expression, if no helper is given a truth value for a text. -/
def value? (look : Lookups) : Expression → Option Value
  | text s => some (.text s)
  | param name =>
    match name.value? look with
    | some (.text s) => some (.text (look.param s))
    | _ => none
  | flag name =>
    match name.value? look with
    | some (.text s) => some (.truth (look.flag s))
    | _ => none
  | header name =>
    match name.value? look with
    | some (.text s) => some (.text (look.header s))
    | _ => none
  | orElse fallback value =>
    match fallback.value? look, value.value? look with
    | some (.text a), some (.text b) => some (.text (if b = "" then a else b))
    | _, _ => none
  | quote value =>
    match value.value? look with
    | some (.text s) => some (.text (if s = "" then "null" else "'" ++ s ++ "'"))
    | _ => none

end Expression

/-! ## Outlines -/

/-- A text that can stand between actions: it holds no opening braces, and a brace
after it would not complete any. -/
structure PlainText where
  chars : List Char
  no_braces : ¬ openingBraces <:+: chars
  no_brace_last : chars.getLast? ≠ some '\x7b'

/-- A sequence of texts, outputs and branches with or without a second part. -/
inductive Outline where
  | done
  | text (s : PlainText) (rest : Outline)
  | output (e : Expression) (rest : Outline)
  | branch (condition : Expression) (yes rest : Outline)
  | branchElse (condition : Expression) (yes no rest : Outline)

/-- The braces that close an action. -/
def closingBraces : List Char := ['\x7d', '\x7d']

/-- An action in its braces. -/
def printAction (body : List Char) : List Char :=
  openingBraces ++ ' ' :: body ++ ' ' :: closingBraces

/-- The action that begins a branch. -/
def printCondition (e : Expression) : List Char :=
  printAction ("if ".toList ++ e.print)

/-- The action that ends a part of a branch. -/
def printCloser (k : Closer) : List Char :=
  printAction k.keyword.toList

namespace Outline

/-- A value as an output writes it. -/
def written : Value → String
  | .text s => s
  | .truth true => "true"
  | .truth false => "false"

/-- Whether a value selects the first part of a branch. -/
def selects : Value → Bool
  | .text s => s != ""
  | .truth b => b

/-- A text followed by another, if there are both. -/
def joined (s t : Option String) : Option String :=
  s.bind fun s => t.map (s ++ ·)

/-- The part of a branch that its condition selects, if the condition has a value. -/
def chosen (condition : Option Value) (yes no : Option String) : Option String :=
  condition.bind fun v => if selects v then yes else no

/-- An outline in the syntax of templates. -/
def print : Outline → List Char
  | done => []
  | text s rest => s.chars ++ rest.print
  | output e rest => printAction e.print ++ rest.print
  | branch condition yes rest =>
    printCondition condition ++ yes.print ++ printCloser .done ++ rest.print
  | branchElse condition yes no rest =>
    printCondition condition ++ yes.print ++ printCloser .otherwise ++ no.print ++
      printCloser .done ++ rest.print

/-- The text that an outline stands for, if every expression that is reached has a
value. -/
def value? (look : Lookups) : Outline → Option String
  | done => some ""
  | text s rest => joined (some (String.ofList s.chars)) (rest.value? look)
  | output e rest => joined ((e.value? look).map written) (rest.value? look)
  | branch condition yes rest =>
    joined (chosen (condition.value? look) (yes.value? look) (some "")) (rest.value? look)
  | branchElse condition yes no rest =>
    joined (chosen (condition.value? look) (yes.value? look) (no.value? look))
      (rest.value? look)

end Outline

end QueryGateway.Template
