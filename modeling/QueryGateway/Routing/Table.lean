import QueryGateway.Endpoint.Basic

/-!
# Route tables

The routes of a server are the common ones and one for each endpoint. A list
of endpoints is accepted if no two of them compete for the same requests:
endpoints whose addresses differ only in the names of captures must have the
same address and different methods, and the common addresses are reserved.
-/

namespace QueryGateway

/-- What answers the requests of a route. -/
inductive Handler where
  | health
  | ready
  | version
  | endpoint (e : Endpoint)
  deriving Repr

/-- A route: an address, a method and what answers. -/
structure Route where
  segments : List Segment
  method : Method
  handler : Handler
  deriving Repr

namespace Route

/-- The common routes. -/
def common : List Route :=
  [⟨[.literal "health".toList], .get, .health⟩,
   ⟨[.literal "ready".toList], .get, .ready⟩,
   ⟨[.literal "version".toList], .get, .version⟩]

/-- The route of an endpoint. -/
def ofEndpoint (e : Endpoint) : Route :=
  { segments := e.segments, method := e.method, handler := .endpoint e }

/-- The addresses of the common routes. -/
def reserved : List String :=
  common.map fun r => Url.routePath r.segments

end Route

namespace Url

/-- A part of a route path without the name of a capture. -/
def erasePart (part : List Char) : List Char :=
  if part.head? == some ':' then [':'] else part

/-- A route path without the names of captures. The paths `/users/:id` and `/users/:uid`
take the same requests. -/
def shape (path : String) : String :=
  String.ofList (List.intercalate ['/'] ((Text.splitAt '/' path.toList).map erasePart))

end Url

/-- What the endpoints registered so far occupy: the path of each shape, and the methods
that are bound on a shape. -/
structure Registry where
  paths : List (String × String) := []
  bound : List (Method × String) := []

namespace Registry

/-- Takes the shape of a path, unless another path has it. -/
def takePath (r : Registry) (path : String) : Except ConfigFailure Registry :=
  match r.paths.lookup (Url.shape path) with
  | some existing =>
    if existing != path then
      .error (.invalid s!"api url {path} conflicts with {existing}")
    else .ok r
  | none => .ok { r with paths := (Url.shape path, path) :: r.paths }

/-- Binds a method on the shape of a path, unless it is bound there. -/
def bindMethod (r : Registry) (m : Method) (path : String) : Except ConfigFailure Registry :=
  if r.bound.contains (m, Url.shape path) then
    .error (.invalid s!"duplicate api {m.name} {path}")
  else .ok { r with bound := (m, Url.shape path) :: r.bound }

/-- Registers an endpoint. -/
def add (r : Registry) (e : Endpoint) : Except ConfigFailure Registry :=
  if Route.reserved.contains e.routePath then
    .error (.invalid s!"api url {e.routePath} is reserved")
  else do
    let r ← r.takePath e.routePath
    r.bindMethod e.method e.routePath

/-- Registers endpoints in turn until one fails. -/
def addAll (r : Registry) : List Endpoint → Except ConfigFailure Registry
  | [] => .ok r
  | e :: rest => do
    let r ← r.add e
    r.addAll rest

end Registry

/-- The routes of a server with some endpoints, the common ones first. -/
def Route.table (endpoints : List Endpoint) : Except ConfigFailure (List Route) := do
  let _ ← Registry.addAll {} endpoints
  return Route.common ++ endpoints.map Route.ofEndpoint

end QueryGateway
