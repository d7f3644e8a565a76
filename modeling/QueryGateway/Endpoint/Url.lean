import QueryGateway.Text.Letter
import QueryGateway.Text.Split

/-!
# Addresses of endpoints

An address is a path whose segments are literal texts or captures `{name}`.
Characters that have a meaning in route paths may not stand in a literal. A
route path writes a capture as `:name`.
-/

namespace QueryGateway

/-- A segment of an address. -/
inductive Segment where
  | literal (text : List Char)
  | capture (name : List Char)
  deriving DecidableEq, Repr

/-- Why a text is no address. -/
inductive UrlFailure where
  | notRooted
  | namelessCapture
  | strayMark
  deriving DecidableEq, Repr

/-- The text of an address failure. -/
def UrlFailure.message : UrlFailure → String
  | notRooted => "must start with /"
  | namelessCapture => "placeholder needs a name"
  | strayMark => "use \x7bname\x7d for path captures"

namespace Segment

/-- The characters of capture names. -/
def isNameChar (c : Char) : Bool :=
  Text.isAsciiAlphanumeric c || c == '_'

/-- The characters that may not stand in a literal segment. -/
def isMark (c : Char) : Bool :=
  c == '\x7b' || c == '\x7d' || c == ':' || c == '*'

/-- The name between the braces of a segment. -/
def inBraces? (s : List Char) : Option (List Char) :=
  (Text.dropPrefix? ['\x7b'] s).bind (Text.dropSuffix? ['\x7d'])

/-- The segment that a text between slashes denotes. -/
def parse (s : List Char) : Except UrlFailure Segment :=
  match inBraces? s with
  | some name =>
    if !name.isEmpty && name.all isNameChar then .ok (.capture name)
    else .error .namelessCapture
  | none => if s.any isMark then .error .strayMark else .ok (.literal s)

/-- A segment as an address writes it. -/
def urlText : Segment → List Char
  | literal text => text
  | capture name => '\x7b' :: name ++ ['\x7d']

/-- A segment as a route path writes it. -/
def routeText : Segment → List Char
  | literal text => text
  | capture name => ':' :: name

/-- Whether a segment matches a segment of a request path. A capture needs a text. -/
def accepts (s : Segment) (text : List Char) : Bool :=
  match s with
  | literal expected => expected == text
  | capture _ => !text.isEmpty

end Segment

namespace Url

/-- The segments of an address. -/
def parse (url : List Char) : Except UrlFailure (List Segment) :=
  match url with
  | '/' :: rest => (Text.splitAt '/' rest).mapM Segment.parse
  | _ => .error .notRooted

/-- A path with the given texts as segments. -/
def joinPath (parts : List (List Char)) : List Char :=
  parts.flatMap fun part => '/' :: part

/-- The route path of an address. -/
def routePath (segments : List Segment) : String :=
  String.ofList (joinPath (segments.map Segment.routeText))

end Url

end QueryGateway
