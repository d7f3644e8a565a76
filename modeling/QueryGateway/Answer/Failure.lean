import QueryGateway.Database.Address
import QueryGateway.Json.Input
import QueryGateway.Parameter.Rule
import QueryGateway.Template.Failure
import QueryGateway.Tree.Basic

/-!
# Failures of requests

The reasons for which a request fails after it has reached an endpoint, with
their wording and their status: 400 when the client is at fault, 500 otherwise.
-/

namespace QueryGateway

/-- Why the body of a request is refused. -/
inductive BadRequest where
  | notObject (found : Tree.Kind)
  | unreadable (failure : Json.Failure)
  | other (reason : String)
  deriving DecidableEq, Repr

/-- The text of a refusal. -/
def BadRequest.message : BadRequest → String
  | notObject found => s!"request body must be a JSON object, got {found.name}"
  | unreadable failure => s!"invalid request body: {failure.message}"
  | other reason => reason

/-- Why no statement or no answer can be rendered. -/
inductive RenderFailure where
  | template (name : String) (failure : Template.TypeFailure)
  | rowBeforeColumns
  | other (reason : String)
  deriving DecidableEq, Repr

/-- The text of a render failure. -/
def RenderFailure.message : RenderFailure → String
  | template name failure => s!"render: {name}: {failure.message}"
  | rowBeforeColumns => "render: csv row before columns"
  | other reason => s!"render: {reason}"

/-- Why the database gives no result: it cannot be reached, its address cannot be
read, or it reports an error. -/
inductive DatabaseFailure where
  | unreachable
  | unusableAddress (failure : AddressFailure)
  | reported (text : String)
  deriving DecidableEq, Repr

/-- The text of a database failure. -/
def DatabaseFailure.message : DatabaseFailure → String
  | unreachable =>
    "error communicating with database: Network is unreachable (os error 101)"
  | unusableAddress failure => s!"error with configuration: {failure.message}"
  | reported text => s!"error returned from database: {text}"

/-- A record has another number of fields than the records before it. -/
structure UnequalRecords where
  found : Nat
  expected : Nat
  deriving DecidableEq, Repr

/-- The text of the failure. -/
def UnequalRecords.message (e : UnequalRecords) : String :=
  s!"CSV error: found record with {e.found} fields, but the previous record has {e.expected} fields"

/-- Why a request fails. -/
inductive RequestFailure where
  | parameter (failure : ParameterFailure)
  | badRequest (failure : BadRequest)
  | render (failure : RenderFailure)
  | database (failure : DatabaseFailure)
  | encoding (failure : UnequalRecords)
  deriving DecidableEq, Repr

namespace RequestFailure

/-- The text of a request failure. -/
def message : RequestFailure → String
  | parameter failure => failure.message
  | badRequest failure => failure.message
  | render failure => failure.message
  | database failure => failure.message
  | encoding failure => failure.message

/-- The status that answers a request failure. -/
def status : RequestFailure → Nat
  | parameter _ => 400
  | badRequest _ => 400
  | _ => 500

end RequestFailure

end QueryGateway
