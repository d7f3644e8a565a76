import QueryGateway.CommandLine.Environment
import QueryGateway.Config.Source
import QueryGateway.Server.Start

/-!
# The command line

The program takes its configuration file from its arguments, else from a
variable of its environment, else under a fixed name. An environment file in
the working directory may give that variable its value.
-/

namespace QueryGateway

/-- Why the arguments are refused. -/
inductive UsageFailure where
  | missingFile (flag : String)
  | unknownArgument (argument : String)
  deriving DecidableEq, Repr

/-- The text of a usage failure. -/
def UsageFailure.message : UsageFailure → String
  | missingFile flag => s!"{flag} needs a file"
  | unknownArgument argument => s!"unknown argument {argument}"

/-- Why the program ends before it serves. -/
inductive CommandFailure where
  | usage (failure : UsageFailure)
  | load (failure : ConfigFailure)
  | start (failure : StartFailure)
  deriving DecidableEq, Repr

namespace CommandLine

/-- The variable that names the configuration file. -/
def configVariable : String := "SQLGATE_CONFIG"

/-- The configuration file when nothing names another. -/
def defaultFile : String := "sqlgate.toml"

/-- The file that may extend the environment. -/
def environmentFile : String := ".env"

/-- The flag that takes its file in the same argument. -/
def joinedFlag : String := "--config="

/-- The configuration file that the arguments name. Only the first flag counts. -/
def fileOf? : List String → Except UsageFailure (Option String)
  | [] => .ok none
  | argument :: rest =>
    if argument == "-c" || argument == "--config" then
      match rest with
      | file :: _ => .ok (some file)
      | [] => .error (.missingFile argument)
    else
      match Text.dropPrefix? joinedFlag.toList argument.toList with
      | some file => .ok (some (String.ofList file))
      | none => .error (.unknownArgument argument)

/-- The configuration file that the arguments name, else the environment, unless
the name is empty. -/
def selectFile (arguments : List String) (env : Environment) : Except CommandFailure String := do
  match ← (fileOf? arguments).mapError .usage, env.get? configVariable with
  | some file, _ => .ok file
  | none, some file => .ok (if file.isEmpty then defaultFile else file)
  | none, none => .ok defaultFile

/-- Starts the program with the contents of its configuration file. -/
def startWith (file : String) (contents : Except LoadFailure Bytes) (db : Database) :
    Except CommandFailure (Plan × App) := do
  let v ← (loadContents file contents).mapError .load
  (QueryGateway.start v db).mapError .start

/-- The environment extended by the environment file, if it can be read. -/
def extend (env : Environment) (file : Except LoadFailure Bytes) : Environment :=
  match file with
  | .ok bytes => env.readFile bytes
  | .error _ => env

/-- Starts the program in a directory. -/
def start (arguments : List String) (env : Environment) (d : Directory) (db : Database) :
    Except CommandFailure (Plan × App) := do
  let file ← selectFile arguments (extend env (d.read environmentFile))
  startWith file (d.read file) db

end CommandLine

end QueryGateway
