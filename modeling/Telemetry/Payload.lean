import Telemetry.Json.Shape
import Telemetry.Text.Blank
/-!
# Payloads

What one text frame of a live feed says: either it brings a batch of
results, or it only proves that the server is alive. Anything else is
refused, and whoever listens drops the frame and goes on.
-/

namespace Telemetry

/-- The content of a frame. -/
inductive Payload (ι : Type) where
  | results (batch : List ι)
  | heartbeat

namespace Payload

/-- Why a frame has no content. -/
inductive Refusal where
  | json (e : Json.Error)
  | missingResults

/-- The words before a shape error of a frame. -/
def shapeMessage (e : Json.ShapeError) : String := "malformed payload: " ++ e.message

/-- The words for an envelope without results. -/
def missingMessage : String := "payload has no Results array"

variable {ι : Type}

/-- The results of an envelope; its other keys do not matter. -/
def ofEnvelope (read : Json.Value → Except Json.ShapeError ι) (v : Json.Value) :
    Except Refusal (Payload ι) :=
  match v.field? "Results" with
  | none => .error .missingResults
  | some found =>
    match found.readList read with
    | .ok items => .ok (.results items)
    | .error e => .error (.json (.shape e))

/-- **Reads a frame**, given how one result is read. A blank frame, null
and the empty object are heartbeats. -/
def decode (read : Json.Value → Except Json.ShapeError ι) (frame : String) :
    Except Refusal (Payload ι) :=
  match Text.trim frame.toList with
  | [] => .ok .heartbeat
  | cs =>
    match Json.Value.ofText (String.ofList cs) with
    | .error f => .error (.json (.fault f))
    | .ok .null => .ok .heartbeat
    | .ok (.object []) => .ok .heartbeat
    | .ok v => ofEnvelope read v

/-- The batch of a payload, empty for a heartbeat. -/
def batch (p : Payload ι) : List ι :=
  match p with
  | .results b => b
  | .heartbeat => []

end Payload

end Telemetry
