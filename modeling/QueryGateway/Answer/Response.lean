import QueryGateway.Answer.Failure
import QueryGateway.Json.Printer
import QueryGateway.Text.Utf8

/-!
# Responses

A response has a status, the headers that the library sets, and a body. JSON
answers share one envelope for failures and one for empty results; CSV answers
are downloads with a file name.
-/

namespace QueryGateway

/-- An answer to a request. -/
structure Response where
  status : Nat
  contentType : Option String := none
  disposition : Option String := none
  allow : Option String := none
  body : Bytes := []
  deriving DecidableEq, Repr

namespace Response

/-- An answer with a JSON body. -/
def json (status : Nat) (body : Bytes) : Response :=
  { status, contentType := some "application/json", body }

/-- An answer with a plain text. -/
def plain (status : Nat) (text : String) : Response :=
  { status, contentType := some "text/plain; charset=utf-8", body := Utf8.ofString text }

/-- The envelope of failures: an object whose member `error` is the message. -/
def envelope (status : Nat) (message : String) : Response :=
  json status (Utf8.ofString (Json.renderString (.map [("error", .text message)])))

/-- The answer to a request that fails before a statement is run. -/
def ofFailure (e : RequestFailure) : Response :=
  envelope e.status e.message

/-- The answer for an empty result. -/
def notFound : Response :=
  json 404 (Utf8.ofString "\x7b\"found\": false\x7d")

/-- Whether a text may stand in a header: no control characters but the tab. -/
def isHeaderText (s : String) : Bool :=
  s.toList.all fun c => c == '\t' || (' ' ≤ c && c != '\x7f')

/-- The header that names the file of a download. -/
def dispositionFor (filename : String) : String :=
  "attachment; filename=\"" ++ String.ofList (filename.toList.filter (· != '"')) ++ ".csv\""

/-- A CSV body as a download. A name that cannot stand in a header is left out. -/
def csvDownload (filename : String) (body : Bytes) : Response :=
  let header := dispositionFor filename
  { status := 200
    contentType := some "text/csv; charset=utf-8"
    disposition := if isHeaderText header then some header else none
    body }

/-- The answer without its body. -/
def withoutBody (r : Response) : Response :=
  { r with body := [] }

end Response

end QueryGateway
