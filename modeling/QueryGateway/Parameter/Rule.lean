import QueryGateway.Config.Failure
import QueryGateway.Pattern.Reader
import QueryGateway.Pattern.Search
import QueryGateway.Text.Casing

/-!
# Parameter rules

An entry names a parameter and lists its checks, such as
`id required pattern:^\d+$`. The checks run in the order of the entry and the
first one that fails decides. A pattern constrains non-empty values only.
-/

namespace QueryGateway

/-- A check of a parameter's value. A pattern is kept with its text. -/
inductive ParameterCheck where
  | required (on : Bool)
  | pattern (text : String) (pattern : Pattern)
  deriving Repr

/-- Why a parameter's value is refused. -/
inductive ParameterFailure where
  | missing (name : String)
  | invalid (name : String)
  deriving DecidableEq, Repr

/-- The text of a parameter failure. -/
def ParameterFailure.message : ParameterFailure → String
  | missing name => s!"param {name} is required"
  | invalid name => s!"param {name} is invalid"

namespace ParameterCheck

/-- Whether a word in small letters switches something on or off. -/
def switch? (word : String) : Option Bool :=
  if ["true", "t", "yes", "y", "on", "1"].contains word then some true
  else if ["false", "f", "no", "n", "off", "0"].contains word then some false
  else none

/-- The check `required` with its setting, which may be left out. -/
def ofRequired (setting : List Char) : Except ConfigFailure ParameterCheck :=
  if setting.isEmpty then .ok (.required true)
  else
    match switch? (String.ofList (Text.lower setting)) with
    | some on => .ok (.required on)
    | none => .error (.invalid (String.ofList setting))

/-- The check `pattern` with its pattern. -/
def ofPattern (setting : List Char) : Except ConfigFailure ParameterCheck :=
  if setting.isEmpty then .error (.invalid "invalid pattern config")
  else
    match Pattern.parse? setting with
    | some p => .ok (.pattern (String.ofList setting) p)
    | none => .error (.invalidPattern (String.ofList setting))

/-- A check from a word of the form `kind` or `kind:setting`. -/
def parse (word : List Char) : Except ConfigFailure ParameterCheck :=
  let (kind, setting) := (Text.cut ':' word).getD (word, [])
  match String.ofList kind with
  | "required" => ofRequired setting
  | "pattern" => ofPattern setting
  | _ => .error (.invalid (String.ofList word))

/-- Whether a value passes the check. -/
def accepts (value : String) : ParameterCheck → Bool
  | required on => !on || !value.isEmpty
  | pattern _ p => value.isEmpty || p.occursIn value.toList

/-- How a check fails for a parameter. -/
def failure (name : String) : ParameterCheck → ParameterFailure
  | required _ => .missing name
  | pattern .. => .invalid name

/-- Checks a value. -/
def run (name value : String) (check : ParameterCheck) : Except ParameterFailure Unit :=
  if check.accepts value then .ok () else .error (check.failure name)

end ParameterCheck

/-- A parameter and its checks in order. The name is a path expression. -/
structure ParameterRule where
  name : String
  checks : List ParameterCheck
  deriving Repr

namespace ParameterRule

/-- The rule of an entry; a blank entry has none. -/
def parse? (entry : String) : Except ConfigFailure (Option ParameterRule) :=
  match Text.words entry.toList with
  | [] => .ok none
  | name :: checks => do
    let checks ← checks.mapM ParameterCheck.parse
    .ok (some { name := String.ofList name, checks })

/-- Runs the checks on a value until one fails. -/
def check (rule : ParameterRule) (value : String) : Except ParameterFailure Unit :=
  rule.checks.forM (ParameterCheck.run rule.name value)

end ParameterRule

end QueryGateway
