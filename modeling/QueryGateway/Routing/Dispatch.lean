import QueryGateway.Routing.Table

/-!
# Dispatching requests

A request goes to the address that matches its path, where a literal segment
wins over a capture at the first segment in which two addresses differ, and
there to the route with its method. Routes for GET also take HEAD. Requests
to open a tunnel are never dispatched; a route declared for them takes the
OPTIONS requests of its address.
-/

namespace QueryGateway

namespace Url

/-- The segments of a request path. -/
def pathSegments? (path : String) : Option (List (List Char)) :=
  match path.toList with
  | '/' :: rest => some (Text.splitAt '/' rest)
  | _ => none

/-- Whether an address matches the segments of a path. -/
def accepts : List Segment → List (List Char) → Bool
  | [], [] => true
  | s :: segments, part :: parts => s.accepts part && accepts segments parts
  | _, _ => false

/-- Whether the first of two addresses wins: it has a literal where they first
differ in kind. -/
def wins : List Segment → List Segment → Bool
  | .literal _ :: _, .capture _ :: _ => true
  | .capture _ :: _, .literal _ :: _ => false
  | _ :: a, _ :: b => wins a b
  | _, _ => false

end Url

/-- Where a request goes. -/
inductive Destination where
  | notFound
  | notAllowed (allowed : String)
  | route (r : Route)
  deriving Repr

namespace Route

/-- The methods that a route announces. -/
def announced (r : Route) : List String :=
  if r.method == .get then ["GET", "HEAD"] else [r.method.name]

/-- The methods whose routes take the requests of a method, the preferred one first. -/
def takers : Method → List Method
  | .connect => []
  | .head => [.head, .get]
  | .options => [.options, .connect]
  | m => [m]

/-- The first route of a list with a given method. -/
def withMethod? (m : Method) (routes : List Route) : Option Route :=
  routes.find? fun r => r.method == m

/-- The routes that share the address that wins among those matching a path. -/
def atAddress (table : List Route) (parts : List (List Char)) : List Route :=
  match table.filter fun r => Url.accepts r.segments parts with
  | [] => []
  | first :: rest =>
    let best := rest.foldl (fun b r => if Url.wins r.segments b.segments then r else b) first
    (first :: rest).filter fun r => r.segments == best.segments

/-- The route for a method among those of an address. -/
def forMethod? (method : String) (routes : List Route) : Option Route := do
  let m ← Method.named? method
  (takers m).findSome? fun taker => withMethod? taker routes

/-- Where a request with a method and a path goes. -/
def dispatch (table : List Route) (method path : String) : Destination :=
  match atAddress table ((Url.pathSegments? path).getD []) with
  | [] => .notFound
  | routes =>
    match forMethod? method routes with
    | some r => .route r
    | none => .notAllowed (",".intercalate (routes.flatMap announced))

end Route

end QueryGateway
