import QueryGateway.Config.Settings
import QueryGateway.Server.App

/-!
# Starting the server

A server starts in a fixed order, and the first step that fails decides: the
server settings, the database settings, the endpoints, the database, and the
routes.
-/

namespace QueryGateway

/-- Why a server does not start. -/
inductive StartFailure where
  | config (failure : ConfigFailure)
  | database (failure : DatabaseFailure)
  deriving DecidableEq, Repr

/-- What a configuration asks for: the settings and the endpoints. -/
structure Plan where
  server : ServerSettings
  database : DatabaseSettings
  endpoints : List Endpoint
  deriving Repr

namespace Plan

/-- The plan of a configuration. -/
def ofView (v : View) : Except ConfigFailure Plan := do
  let server ← ServerSettings.ofView v
  let database ← DatabaseSettings.ofView v
  let endpoints ← Endpoint.loadAll database.layout v
  return { server, database, endpoints }

/-- The application of a plan. -/
def app (p : Plan) : Except ConfigFailure App := do
  return { routes := ← Route.table p.endpoints, bodyLimit := p.server.bodyLimit }

/-- Opens the database without connecting to it. -/
def openDatabase (p : Plan) : Except DatabaseFailure Unit :=
  (Address.check p.database.url).mapError .unusableAddress

/-- Opens the database and connects to it once. -/
def connect (p : Plan) (db : Database) : Except DatabaseFailure Unit := do
  p.openDatabase
  let _ ← db.connect
  return ()

end Plan

/-- Prepares the application of a configuration without connecting to the database. -/
def prepare (v : View) : Except StartFailure (Plan × App) := do
  let plan ← (Plan.ofView v).mapError .config
  plan.openDatabase.mapError .database
  return (plan, ← plan.app.mapError .config)

/-- Starts the server of a configuration. -/
def start (v : View) (db : Database) : Except StartFailure (Plan × App) := do
  let plan ← (Plan.ofView v).mapError .config
  (plan.connect db).mapError .database
  return (plan, ← plan.app.mapError .config)

end QueryGateway
