import QueryGateway.Endpoint.Handle
import QueryGateway.Routing.Dispatch

/-!
# The application

An application answers requests by its routes and limits the size of their
bodies. A declared length above the limit is refused at once; otherwise a body
may be as long as declared and at most as long as the limit, which matters
only to endpoints, since nothing else reads the body.
-/

namespace QueryGateway

/-- Routes with a limit on the size of request bodies. -/
structure App where
  routes : List Route
  bodyLimit : Nat
  deriving Repr

namespace App

/-- The bound of declared lengths; larger ones are ignored. -/
def lengthBound : Nat := 2 ^ 64

/-- The length of the body that a request declares. -/
def declaredLength? (headers : Headers) : Option Nat :=
  let text := (headers.text "content-length").toList
  let digits := if text.head? == some '+' then text.tail else text
  if digits.isEmpty || !digits.all Text.isAsciiDigit then none
  else
    let n := digits.foldl (fun n c => n * 10 + (c.toNat - 48)) 0
    if n < lengthBound then some n else none

/-- The answer to a request that declares too long a body. -/
def lengthRefused : Response :=
  .plain 413 "length limit exceeded"

/-- The answer of an endpoint that reads too long a body. -/
def bodyRefused : Response :=
  .plain 413 "Failed to buffer the request body: length limit exceeded"

/-- A small answer of a common route. -/
def jsonText (status : Nat) (text : String) : Response :=
  .json status (Utf8.ofString text)

/-- The answer when the server is alive. -/
def healthy : Response :=
  jsonText 200 "\x7b\"status\":\"ok\"\x7d"

/-- The answer that names the program. -/
def version : Response :=
  jsonText 200 "\x7b\"name\":\"sqlgate\",\"version\":\"0.1.0\"\x7d"

/-- The answer on whether the database can be used. -/
def readiness (ping : Except DatabaseFailure Unit) : Response :=
  match ping with
  | .ok () => jsonText 200 "\x7b\"status\":\"ok\",\"database\":\"ok\"\x7d"
  | .error _ => jsonText 503 "\x7b\"status\":\"degraded\",\"database\":\"unavailable\"\x7d"

/-- What a handler answers, with what the database received. A body longer than
the limit is refused by the endpoint that reads it. -/
def answer (db : Database) (limit : Nat) (request : Request) : Handler → Response × List Sent
  | .health => (healthy, [])
  | .version => (version, [])
  | .ready =>
    let (outcome, sent) := db.ping
    (readiness outcome, sent)
  | .endpoint e =>
    if limit < request.body.length then (bodyRefused, []) else e.handle db request

/-- Answers a request unless its declared length is above the limit. -/
def guarded (app : App) (request : Request) (inner : Nat → Response × List Sent) :
    Response × List Sent :=
  match declaredLength? request.headers with
  | some n => if app.bodyLimit < n then (lengthRefused, []) else inner (min app.bodyLimit n)
  | none => inner app.bodyLimit

/-- The response to a request, with what the database received. The answers of
routes to HEAD have no body. -/
def handle (app : App) (db : Database) (request : Request) : Response × List Sent :=
  match Route.dispatch app.routes request.method request.target.path with
  | .notFound => app.guarded request fun _ => ({ status := 404 }, [])
  | .notAllowed allowed =>
    let (response, sent) := app.guarded request fun _ => ({ status := 405 }, [])
    ({ response with allow := some allowed }, sent)
  | .route r =>
    let (response, sent) :=
      app.guarded request fun limit => answer db limit request r.handler
    (if request.method == Method.head.name then response.withoutBody else response, sent)

end App

end QueryGateway
