import QueryGateway.Config.Settings
import QueryGateway.Json.Reader
import QueryGateway.Toml.Document

/-!
# Configuration documents

A configuration is a TOML or JSON document; the extension of its file name
tells which. Files come from a directory given as a list of names and contents.
-/

namespace QueryGateway

/-- The formats of configuration documents. -/
inductive DocumentFormat where
  | toml
  | json
  deriving DecidableEq, Repr

namespace DocumentFormat

/-- The tree that a document denotes. A JSON document is an object. -/
def parse (format : DocumentFormat) (text : String) : Except LoadFailure Tree :=
  match format with
  | .toml =>
    match Toml.read? text with
    | some t => .ok t
    | none => .error .notToml
  | .json =>
    match Json.readText text with
    | .error e => .error (.notJson e)
    | .ok (.map fields) => .ok (.map fields)
    | .ok _ => .error .rootNotObject

end DocumentFormat

/-- A directory: file names with contents. -/
abbrev Directory := List (String × Bytes)

namespace Directory

/-- The components of a path; repeated slashes and single dots do not count. -/
def components (path : List Char) : List (List Char) :=
  (Text.splitAt '/' path).filter fun part => !part.isEmpty && part != ['.']

/-- The extension of a file name: what follows its last dot, unless that dot
begins the name. -/
def extension? (file : String) : Option String :=
  match (components file.toList).getLast? with
  | none => none
  | some name =>
    if name == ['.', '.'] then none
    else
      match Text.cutLast '.' name with
      | some (stem, ext) => if stem.isEmpty then none else some (String.ofList ext)
      | none => none

/-- The contents of a file of the directory. Paths that begin with a slash lead
out of it. -/
def read (d : Directory) (file : String) : Except LoadFailure Bytes :=
  let path := file.toList
  let found := (d.find? fun (name, _) => components name.toList == components path)
  match found, path.head? == some '/', path.getLast? == some '/' with
  | some _, false, true => .error (.unreadable file "Not a directory (os error 20)")
  | some (_, bytes), false, false => .ok bytes
  | _, _, _ => .error (.unreadable file "No such file or directory (os error 2)")

end Directory

/-- The configuration in a file with the given name and contents. -/
def loadContents (file : String) (contents : Except LoadFailure Bytes) :
    Except ConfigFailure View := do
  let format : DocumentFormat ←
    match Directory.extension? file with
    | some "toml" => .ok .toml
    | some "json" => .ok .json
    | _ => .error (.unsupportedFormat file)
  let result : Except LoadFailure Tree := do
    match Utf8.toString? (← contents) with
    | none => .error (.unreadable file "stream did not contain valid UTF-8")
    | some text => format.parse text
  (result.map View.mk).mapError .load

/-- The configuration in a file of a directory. -/
def loadFile (d : Directory) (file : String) : Except ConfigFailure View :=
  loadContents file (d.read file)

/-- The configuration in the file that a variable names. -/
def loadVariable (d : Directory) (name : String) (value : Option String) :
    Except ConfigFailure View :=
  match value with
  | none => .error (.variableNotSet name)
  | some file => if file.isEmpty then .error (.variableNotSet name) else loadFile d file

end QueryGateway
