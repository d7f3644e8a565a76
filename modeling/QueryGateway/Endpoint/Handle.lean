import QueryGateway.Database.Executor
import QueryGateway.Endpoint.Context

/-!
# Answering requests

A request is answered with a failure if its values cannot be built or are
refused, and otherwise with the result of the endpoint's statement.
-/

namespace QueryGateway.Endpoint

/-- The response to a request, with what the database received. -/
def handle (e : Endpoint) (db : Database) (request : Request) : Response × List Sent :=
  match e.context request with
  | .error failure => (.ofFailure failure, [])
  | .ok c =>
    match e.validate c with
    | .error failure => (.ofFailure (.parameter failure), [])
    | .ok () =>
      Encoder.use (e.encoderKind c) (e.source c) fun enc s =>
        let reply :=
          match e.statementKind with
          | .query => enc.query s db
          | .update => enc.update s db
        (reply.response, reply.sent)

end QueryGateway.Endpoint
