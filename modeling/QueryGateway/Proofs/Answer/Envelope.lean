import QueryGateway.Answer.Response
import QueryGateway.Proofs.Json.Escapes
import QueryGateway.Proofs.Text.Utf8

/-!
# Envelopes of failures

The body of a failure is a JSON text that denotes an object with the message as its
only member, whatever characters the message holds.
-/

namespace QueryGateway.Response

open Json Json.Document

/-- A JSON answer with a status whose body denotes an object with one member `error`,
which is the message. -/
structure IsEnvelope (r : Response) (status : Nat) (message : String) : Prop where
  status : r.status = status
  contentType : r.contentType = some "application/json"
  body : ofBytes? r.body = some (.object [("error", .string message)])

/-- The body of a failure can be read back. -/
theorem isEnvelope_envelope (status : Nat) (message : String) :
    (envelope status message).IsEnvelope status message where
  status := rfl
  contentType := rfl
  body := by
    have htext : (renderString (.map [("error", .text message)])).toList =
        '\x7b' :: [','].intercalate
          ([message].map fun m => member escapeChar "error" (quoted escapeChar m)) ++ ['\x7d'] := by
      simp [renderString, render, renderFields, quote, member, quoted]
    have hreads : Reads ('\x7b' :: [','].intercalate
          ([message].map fun m => member escapeChar "error" (quoted escapeChar m)) ++ ['\x7d'])
        (.object ([message].map fun m => ("error", .string m))) :=
      reads_object escapes_escapeChar fun m _ => reads_string escapes_escapeChar m
    rw [envelope, json, Utf8.ofString, htext, ofBytes?, Utf8.decode?_encode]
    exact hreads.ofText?

end QueryGateway.Response
