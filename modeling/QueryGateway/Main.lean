import QueryGateway.CommandLine.Report

/-!
# The program

Reads the arguments, the environment and the files that they name, and starts
the server. This program has no link to a database: to it every database is
out of reach, so that it always ends with a report.
-/

namespace QueryGateway.Program

/-- Why the system refuses to read a file. -/
def reason : IO.Error → String
  | .noFileOrDirectory .. => "No such file or directory (os error 2)"
  | .permissionDenied .. => "Permission denied (os error 13)"
  | .inappropriateType .. => "Is a directory (os error 21)"
  | e => e.toString

/-- Reads a file. -/
def read (file : String) : IO (Except LoadFailure Bytes) := do
  match ← (IO.FS.readBinFile file).toBaseIO with
  | .ok bytes => return .ok bytes.toList
  | .error e => return .error (.unreadable file (reason e))

/-- The values of some names. -/
def environmentOf (names : List String) : IO Environment := do
  let entries ← names.filterMapM fun name => do
    return (← IO.getEnv name).map fun value => (name, value)
  return ⟨entries⟩

/-- Runs the program and gives the failure that ends it. -/
def run (arguments : List String) : IO (Except CommandFailure (Plan × App)) := do
  let extra ← read CommandLine.environmentFile
  let names := Environment.mentioned (extra.toOption.getD [])
  let env ← environmentOf (CommandLine.configVariable :: names)
  match CommandLine.selectFile arguments (CommandLine.extend env extra) with
  | .error e => return .error e
  | .ok file => return CommandLine.startWith file (← read file) .unreachable

end QueryGateway.Program

/-- Ends with 1 after a failure, which goes to the error stream. -/
def main (arguments : List String) : IO UInt32 := do
  match ← QueryGateway.Program.run arguments with
  | .ok _ => return 0
  | .error failure =>
    IO.eprintln (QueryGateway.CommandLine.lastLine failure)
    return 1
