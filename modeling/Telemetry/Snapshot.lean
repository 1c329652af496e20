import Telemetry.Payload
import Telemetry.Text.Utf8
/-!
# Snapshots

The items a feed holds at the time it is asked. A server answers such a
request with the same envelope its live feed uses; one that only says it
is alive has no items.
-/

namespace Telemetry

/-- What a server answers to a request. -/
structure Response where
  status : Nat
  body : List UInt8

namespace Response

/-- Whether the request went well. -/
def isSuccess (r : Response) : Bool := 200 ≤ r.status && r.status < 300

/-- The body as text; a mark of byte order in front is no part of it. -/
def text (r : Response) : String :=
  match (Text.decodeLossy r.body).toList with
  | '\uFEFF' :: rest => String.ofList rest
  | cs => String.ofList cs

end Response

namespace Snapshot

/-- Why there is no snapshot. -/
inductive Refusal where
  /-- The server did not do as it was asked. -/
  | status (code : Nat) (body : String)
  | payload (r : Payload.Refusal)

/-- The words for a status. -/
def statusMessage (code : Nat) (body : String) : String :=
  "server returned " ++ toString code ++ ": " ++ body

/-- The words before what is wrong with a body. -/
def payloadMessage (message : String) : String := "undecodable snapshot: " ++ message

/-- The wording of a refusal. Where a body is no JSON at all, only the
kind of the fault is told. -/
def Refusal.message : Refusal → String
  | .status code body => statusMessage code body
  | .payload .missingResults => payloadMessage Payload.missingMessage
  | .payload (.json (.shape e)) => payloadMessage (Payload.shapeMessage e)
  | .payload (.json e) => payloadMessage ("malformed payload: " ++ e.category)

/-- **Reads the items of an answer.** -/
def ofResponse {ι : Type} (read : Json.Value → Except Json.ShapeError ι) (r : Response) :
    Except Refusal (List ι) :=
  if r.isSuccess then
    match Payload.decode read r.text with
    | .ok p => .ok p.batch
    | .error e => .error (.payload e)
  else .error (.status r.status r.text)

end Snapshot

end Telemetry
