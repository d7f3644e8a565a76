import QueryGateway.Text.Casing
import QueryGateway.Text.Split
import QueryGateway.Text.Utf8

/-!
# Requests

A request has a method, a target with a path and a query, headers and a body.
The names of headers are compared without casing, and of several values of a
name the first one counts.
-/

namespace QueryGateway

/-- Header names and values, in order. -/
abbrev Headers := List (String × Bytes)

namespace Headers

/-- The form of a header name in which casing does not count. -/
def foldName (name : String) : List Char :=
  name.toList.map fun c => if Text.isAsciiUpper c then Char.ofNat (c.toNat + 32) else c

/-- The first value of a header. -/
def get? (headers : Headers) (name : String) : Option Bytes :=
  (headers.find? fun (n, _) => foldName n == foldName name).map (·.2)

/-- The value of a header as text; empty unless all of it is visible ASCII. -/
def text (headers : Headers) (name : String) : String :=
  match headers.get? name with
  | none => ""
  | some value =>
    if value.all fun b => b == 9 || (32 ≤ b && b < 127) then
      String.ofList (value.map fun b => Char.ofNat b.toNat)
    else ""

end Headers

/-- What a request asks for: a path, and a query if there is one. -/
structure Target where
  path : String
  query : Option String := none
  deriving DecidableEq, Repr

namespace Target

/-- The target of a path and query. An empty path is the root. -/
def ofPathAndQuery (s : List Char) : Target :=
  let (path, query) :=
    match Text.cut '?' s with
    | some (path, query) => (path, some (String.ofList query))
    | none => (s, none)
  { path := if path.isEmpty then "/" else String.ofList path, query }

/-- The target that a text denotes, without its fragment. Of an absolute one only
the path and the query count. -/
def parse (s : String) : Target :=
  let s := s.toList.takeWhile (· != '#')
  if s.head? == some '/' then ofPathAndQuery s
  else
    match Text.cutText [':', '/', '/'] s with
    | some (_, rest) => ofPathAndQuery (rest.dropWhile fun c => c != '/' && c != '?')
    | none => { path := if s == ['*'] then "*" else "" }

end Target

/-- A request to the server. -/
structure Request where
  method : String := "GET"
  target : Target
  headers : Headers := []
  body : Bytes := []
  deriving DecidableEq, Repr

end QueryGateway
