import QueryGateway.CommandLine.Basic
import QueryGateway.Text.Quoted

/-!
# Reports of failures

When the program ends with a failure it reports the failure as a term: the name
of its kind, with its parts in parentheses or, where they have names, in braces.
Texts stand in double quotes.
-/

namespace QueryGateway.CommandLine

/-- A term with one part. -/
def term (name part : String) : String :=
  name ++ "(" ++ part ++ ")"

/-- A term with named parts. -/
def record (name : String) (parts : List (String × String)) : String :=
  name ++ " \x7b " ++
    String.intercalate ", " (parts.map fun (part, value) => part ++ ": " ++ value) ++ " \x7d"

/-- The report of a path failure. -/
def pathReport : Path.Failure → String
  | .notAList segment found =>
    record "NotAnArray"
      [("segment", Text.showString segment), ("found", Text.showString found.name)]
  | .outOfRange index size =>
    record "IndexOutOfRange" [("index", toString index), ("len", toString size)]
  | .unreadable value target =>
    record "Parse" [("value", Text.showString value), ("target", Text.showString target.name)]

/-- The report of a document that could not be loaded. Why a document is no TOML
is not reported. -/
def loadReport : LoadFailure → String
  | .notToml => "TOML"
  | failure => Text.showString failure.message

/-- The report of a configuration failure. Why a pattern does not compile is not
reported. -/
def configReport : ConfigFailure → String
  | .missingUrl => "MissingUrl"
  | .missingSql => "MissingSql"
  | .missingDatabaseUrl => "MissingDbUrl"
  | .invalid reason => term "InvalidConfig" (Text.showString reason)
  | .invalidPattern pattern =>
    record "InvalidPattern" [("pattern", Text.showString pattern), ("source", "Syntax")]
  | .invalidSqlType name => term "InvalidSqlType" (Text.showString name)
  | .invalidOutputType name => term "InvalidOutputType" (Text.showString name)
  | .template name failure =>
    record "Template"
      [("name", Text.showString name), ("message", Text.showString failure.message)]
  | .unsupportedFormat file => term "UnsupportedFormat" (Text.showString file)
  | .load failure => term "Load" (loadReport failure)
  | .variableNotSet name => term "EnvNotSet" (Text.showString name)
  | .path failure => term "Path" (pathReport failure)

/-- The report of a database failure. -/
def databaseReport : DatabaseFailure → String
  | .unreachable =>
    let os := record "Os" [("code", "101"), ("kind", "NetworkUnreachable"),
      ("message", Text.showString "Network is unreachable")]
    term "Io" os
  | .unusableAddress failure => term "Configuration" failure.name
  | .reported text => term "Database" (Text.showString text)

/-- The report of a failure. -/
def report : CommandFailure → String
  | .usage failure => Text.showString failure.message
  | .load failure => configReport failure
  | .start (.config failure) => term "Config" (configReport failure)
  | .start (.database failure) => term "App" (term "Db" (databaseReport failure))

/-- The line that ends the program. -/
def lastLine (failure : CommandFailure) : String :=
  "Error: " ++ report failure

end QueryGateway.CommandLine
