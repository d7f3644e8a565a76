import QueryGateway.Endpoint.Basic
import QueryGateway.Endpoint.Request
import QueryGateway.Json.Reader

/-!
# Values of a request

For an endpoint, a request gives a set of values: the defaults of the
endpoint, then the members of a JSON body, then the pairs of the query. Later
sources win key by key. Parameters are read from the merged set by path
expressions.
-/

namespace QueryGateway

/-- The values of a request. -/
structure Context where
  values : View
  headers : Headers
  path : String

namespace Context

/-- The text of a parameter; empty if it is absent. -/
def param (c : Context) (name : String) : String :=
  c.values.text name ""

/-- The truth value of a parameter; false if it is absent or none. -/
def flag (c : Context) (name : String) : Bool :=
  c.values.bool name false

/-- The text of a header. -/
def header (c : Context) (name : String) : String :=
  c.headers.text name

/-- How templates look up the values. -/
def lookups (c : Context) : Template.Lookups where
  param := c.param
  flag := c.flag
  header := c.header

/-- Whether a body holds nothing but ASCII blanks. -/
def isBlankBody (body : Bytes) : Bool :=
  body.all fun b => b == 0x20 || b == 0x09 || b == 0x0A || b == 0x0C || b == 0x0D

/-- The members of a body. -/
def bodyFields (body : Bytes) : Except BadRequest Fields :=
  if isBlankBody body then .ok []
  else
    match Json.read body with
    | .ok (.map fields) => .ok fields
    | .ok other => .error (.notObject other.kind)
    | .error e => .error (.unreadable e)

/-- Pairs of texts as fields. -/
def textFields (pairs : List (String × String)) : List (String × Tree) :=
  pairs.map fun (k, s) => (k, .text s)

/-- The merged values of defaults, body and query. -/
def merge (defaults : List (String × String)) (body : Fields) (query : Option String) : Fields :=
  Fields.ofList
    (textFields defaults ++ body ++ textFields ((query.map FormUrl.parse).getD []))

end Context

namespace Endpoint

/-- The values of a request to the endpoint. -/
def context (e : Endpoint) (request : Request) : Except RequestFailure Context := do
  let body ← (Context.bodyFields request.body).mapError .badRequest
  .ok {
    values := ⟨.map (Context.merge e.defaults body request.target.query)⟩
    headers := request.headers
    path := request.target.path }

/-- Checks the parameters in the order of their rules until one fails. -/
def validate (e : Endpoint) (c : Context) : Except ParameterFailure Unit :=
  e.rules.forM fun rule => rule.check (c.param rule.name)

/-- The statement of a request. -/
def statement (e : Endpoint) (c : Context) : Except RequestFailure String :=
  match e.template.render c.lookups with
  | .ok sql => .ok (e.layout.apply sql)
  | .error failure => .error (.render (.template e.template.name failure))

/-- The kind of encoder that answers a request. A query answers with CSV if the
parameter `csv` is true. -/
def encoderKind (e : Endpoint) (c : Context) : Encoder.Kind :=
  match e.statementKind with
  | .update => .exec
  | .query =>
    if c.flag "csv" then .csv
    else
      match e.answerKind with
      | .list => .list
      | .single => .single
      | .csv => .csv

/-- The name of a download: the parameter `filename`, or else the path. -/
def filename (c : Context) : String :=
  let name := c.param "filename"
  if name.isEmpty then c.path else name

/-- What an encoder knows of a request. -/
def source (e : Endpoint) (c : Context) : Encoder.Source where
  statement := e.statement c
  jsonNames := e.jsonNames
  csvNames := e.csvNames
  filename := filename c

end Endpoint

end QueryGateway
