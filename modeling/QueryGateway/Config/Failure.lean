import QueryGateway.Json.Input
import QueryGateway.Path.Basic
import QueryGateway.Template.Failure

/-!
# Configuration failures

The reasons for which a configuration is refused, with their wording. A
pattern that does not compile and a document that is not TOML are reported
without the details of the compiler and the reader.
-/

namespace QueryGateway

/-- Why a configuration document could not be loaded. -/
inductive LoadFailure where
  | unreadable (file reason : String)
  | notJson (failure : Json.Failure)
  | notToml
  | rootNotObject
  deriving DecidableEq, Repr

/-- The text of a load failure. -/
def LoadFailure.message : LoadFailure → String
  | unreadable file reason => s!"{file}: {reason}"
  | notJson failure => failure.message
  | notToml => "TOML"
  | rootNotObject => "config root must be an object"

/-- Why a configuration is refused. -/
inductive ConfigFailure where
  | missingUrl
  | missingSql
  | missingDatabaseUrl
  | invalid (reason : String)
  | invalidPattern (pattern : String)
  | invalidSqlType (name : String)
  | invalidOutputType (name : String)
  | template (name : String) (failure : Template.Failure)
  | unsupportedFormat (file : String)
  | load (failure : LoadFailure)
  | variableNotSet (name : String)
  | path (failure : Path.Failure)
  deriving DecidableEq, Repr

/-- The text of a configuration failure. -/
def ConfigFailure.message : ConfigFailure → String
  | missingUrl => "api url is not set"
  | missingSql => "sql is not configured"
  | missingDatabaseUrl => "db.url is not set"
  | invalid reason => s!"invalid config: {reason}"
  | invalidPattern pattern => s!"invalid pattern '{pattern}'"
  | invalidSqlType name => s!"invalid sql type {name}"
  | invalidOutputType name => s!"invalid output type {name}"
  | template name failure => s!"template {name}: {failure.message}"
  | unsupportedFormat file => s!"unsupported config format {file}"
  | load failure => s!"config load: {failure.message}"
  | variableNotSet name => s!"env {name} not specified"
  | path failure => failure.message

/-- A path failure as a configuration failure. -/
def ConfigFailure.ofPath {α : Type} (r : Except Path.Failure α) : Except ConfigFailure α :=
  r.mapError .path

end QueryGateway
