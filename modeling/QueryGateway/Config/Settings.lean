import QueryGateway.Config.Failure
import QueryGateway.Config.View
import QueryGateway.Statement.Layout

/-!
# Server and database settings

The settings that a configuration tree holds, with their defaults and limits.
Durations are in seconds. A database address is shown with its password masked.
-/

namespace QueryGateway

/-- Where the server listens and what it grants its clients. -/
structure ServerSettings where
  host : String
  port : Nat
  gracePeriod : Nat
  bodyLimit : Nat
  deriving DecidableEq, Repr

/-- The port used when none is configured. -/
def defaultPort : Nat := 3424

/-- The body limit used when none is configured. -/
def defaultBodyLimit : Nat := 1024 * 1024

namespace ServerSettings

/-- The server settings of a configuration. -/
def ofView (v : View) : Except ConfigFailure ServerSettings :=
  let port := v.int "port" defaultPort
  if 0 ≤ port && port < 2 ^ 16 then
    .ok {
      host := v.text "host" "0.0.0.0"
      port := port.toNat
      gracePeriod := (v.long "graceful_timeout_seconds" 10).toNat
      bodyLimit := (v.long "body_limit_bytes" defaultBodyLimit).toNat }
  else .error (.invalid s!"port {port} out of range")

/-- The address that the server listens on. -/
def address (s : ServerSettings) : String :=
  s!"{s.host}:{s.port}"

end ServerSettings

/-- Where the database is, the limits of its connection pool, and how the
statements sent to it are laid out. -/
structure DatabaseSettings where
  url : String
  maxOpen : Nat
  maxIdle : Nat
  maxLifetime : Nat
  acquireTimeout : Nat
  foldLines : Bool
  dropBlankLines : Bool
  deriving DecidableEq, Repr

/-- The longest duration, in seconds. -/
def longestDuration : Nat := 2 ^ 64 - 1

namespace DatabaseSettings

/-- A number of connections: at least one. -/
def count (v : View) (expr : String) (dflt : Int) : Nat :=
  (max (v.int expr dflt) 1).toNat

/-- A duration in seconds, given in multiples of `unit` seconds. -/
def duration (v : View) (expr : String) (dflt : Int) (unit : Nat) : Nat :=
  min ((v.long expr dflt).toNat * unit) longestDuration

/-- The database settings of a configuration. -/
def ofView (v : View) : Except ConfigFailure DatabaseSettings :=
  let url := v.text "db.url" ""
  if url.isEmpty then .error .missingDatabaseUrl
  else
    .ok {
      url
      maxOpen := count v "db.max_open_conn" 3
      maxIdle := count v "db.max_idle_conn" 3
      maxLifetime := duration v "db.max_lifetime_minute" 5 60
      acquireTimeout := duration v "db.acquire_timeout_seconds" 5 1
      foldLines := v.bool "db.replace_newline_with_space" false
      dropBlankLines := v.bool "db.remove_empty_line" true }

/-- The layout of statements. -/
def layout (s : DatabaseSettings) : Statement.Layout :=
  .ofSwitches s.foldLines s.dropBlankLines

/-- The mask shown in place of a password. -/
def mask : List Char := "****".toList

/-- An address with its password masked. The user information ends at the last
at sign before the first slash; an address without a scheme is masked whole. -/
def maskUrl (url : List Char) : List Char :=
  match Text.cutText "://".toList url with
  | none => mask
  | some (scheme, rest) =>
    let authority := rest.takeWhile (· != '/')
    let tail := rest.drop authority.length
    match Text.cutLast '@' authority with
    | none => url
    | some (user, host) =>
      scheme ++ "://".toList ++ user.takeWhile (· != ':') ++ ':' :: mask ++ '@' :: host ++ tail

/-- The address of the database with its password masked. -/
def maskedUrl (s : DatabaseSettings) : String :=
  String.ofList (maskUrl s.url.toList)

end DatabaseSettings

end QueryGateway
