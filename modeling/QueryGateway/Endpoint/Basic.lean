import QueryGateway.Answer.Encoder
import QueryGateway.Config.View
import QueryGateway.Endpoint.Url
import QueryGateway.Statement.Layout
import QueryGateway.Template.Basic
import QueryGateway.Text.FormUrl

/-!
# Endpoints

An endpoint is a route with a statement: an entry of the configuration names
its address, its method, the template of its statement, the rules and defaults
of its parameters, and the form and names of its answers.
-/

namespace QueryGateway

/-- The methods that an endpoint can have. -/
inductive Method where
  | connect
  | delete
  | get
  | head
  | options
  | patch
  | post
  | put
  | trace
  deriving DecidableEq, Repr

namespace Method

/-- The name of a method. -/
def name : Method → String
  | connect => "CONNECT"
  | delete => "DELETE"
  | get => "GET"
  | head => "HEAD"
  | options => "OPTIONS"
  | patch => "PATCH"
  | post => "POST"
  | put => "PUT"
  | trace => "TRACE"

/-- All methods. -/
def all : List Method :=
  [connect, delete, get, head, options, patch, post, put, trace]

/-- The method with a name. -/
def named? (s : String) : Option Method :=
  all.find? fun m => m.name == s

end Method

/-- Whether a statement returns rows or changes the database. -/
inductive StatementKind where
  | query
  | update
  deriving DecidableEq, Repr

/-- The statement kind with a name. -/
def StatementKind.parse (name : String) : Except ConfigFailure StatementKind :=
  match name with
  | "query" => .ok query
  | "update" => .ok update
  | other => .error (.invalidSqlType other)

/-- The form of the answers to a query. -/
inductive AnswerKind where
  | list
  | single
  | csv
  deriving DecidableEq, Repr

/-- The form of answers with a name. -/
def AnswerKind.parse (name : String) : Except ConfigFailure AnswerKind :=
  match name with
  | "list" => .ok list
  | "single" => .ok single
  | "csv" => .ok csv
  | other => .error (.invalidOutputType other)

/-- A route with its statement. -/
structure Endpoint where
  url : String
  segments : List Segment
  method : Method
  template : Template
  layout : Statement.Layout
  statementKind : StatementKind
  answerKind : AnswerKind
  jsonNames : Naming
  csvNames : Naming
  rules : List ParameterRule
  defaults : List (String × String)
  deriving Repr

namespace Endpoint

/-- The items of the list at an expression, read in turn until one fails. -/
def readItems {α : Type} (v : View) (expr : String) (read : String → Except ConfigFailure α) :
    Except ConfigFailure (List α) := do
  let items ← ConfigFailure.ofPath (v.items expr)
  items.mapM fun item => do read ((← ConfigFailure.ofPath item).text "_" "")

/-- The segments of a configured address. -/
def readUrl (url : String) : Except ConfigFailure (List Segment) :=
  (Url.parse url.toList).mapError fun e => .invalid s!"api url {url}: {e.message}"

/-- The method with a configured name, in any casing. -/
def readMethod (name : String) : Except ConfigFailure Method :=
  let name := Text.upperString name
  match Method.named? name with
  | some m => .ok m
  | none => .error (.invalid s!"invalid method {name}")

/-- The rules of the parameters; blank entries have none. -/
def readRules (v : View) : Except ConfigFailure (List ParameterRule) :=
  (readItems v "params" ParameterRule.parse?).map fun rules => rules.filterMap id

/-- The defaults of the parameters, as a table or as form-encoded pairs. -/
def readDefaults (v : View) : Except ConfigFailure (List (String × String)) := do
  match (← ConfigFailure.ofPath (v.get "param_defaults")).tree with
  | .null => .ok []
  | .map fields => .ok (fields.map fun (k, t) => (k, t.toText))
  | other => .ok (FormUrl.parse other.toText)

/-- The column and the output name of an entry; an empty entry has none. -/
def readName (expr entry : String) : Except ConfigFailure (Option (String × String)) :=
  if entry.isEmpty then .ok none
  else
    match Text.cutString ':' entry with
    | some (column, name) => .ok (some (column, Text.trimString name))
    | none => .error (.invalid s!"{expr} entry '{entry}' is not column: name")

/-- The listed output names at an expression, in order. -/
def readNames (v : View) (expr : String) : Except ConfigFailure (List (String × String)) :=
  (readItems v expr (readName expr)).map fun names => names.filterMap id

/-- The endpoint of a configuration entry. -/
def ofView (layout : Statement.Layout) (v : View) : Except ConfigFailure Endpoint := do
  let url := v.text "url" ""
  if url.isEmpty then throw .missingUrl
  let segments ← readUrl url
  let method ← readMethod (v.text "method" "GET")
  let sql := v.text "sql" ""
  if sql.isEmpty then throw .missingSql
  let name := method.name ++ url
  let template ← (Template.compile name sql).mapError (.template name)
  let answerKind ← AnswerKind.parse (v.text "output_type" "list")
  let statementKind ← StatementKind.parse (v.text "sql_type" "query")
  let jsonStyle ← NameStyle.parse (v.text "output_converter" "lowercamel")
  let csvStyle ← NameStyle.parse (v.text "output_converter_csv" "screamingsnake")
  let rules ← readRules v
  let defaults ← readDefaults v
  let jsonListed ← readNames v "output_map"
  let csvListed ← readNames v "output_map_csv"
  return {
    url, segments, method, template, layout, statementKind, answerKind
    jsonNames := { listed := jsonListed, style := jsonStyle }
    csvNames := { listed := csvListed, style := csvStyle }
    rules, defaults }

/-- The route path of an endpoint. -/
def routePath (e : Endpoint) : String :=
  Url.routePath e.segments

/-- The endpoints of a configuration, or the failure of the first entry that is
none. -/
def loadAll (layout : Statement.Layout) (v : View) : Except ConfigFailure (List Endpoint) := do
  let items ← ConfigFailure.ofPath (v.items "api")
  items.mapM fun item => do ofView layout (← ConfigFailure.ofPath item)

end Endpoint

end QueryGateway
