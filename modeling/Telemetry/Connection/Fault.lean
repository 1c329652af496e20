import Telemetry.Time.Span
/-!
# Connection — faults

Why a connection loses its socket, or cannot open one.
-/

namespace Telemetry

namespace Connection

/-- A failure of a connection. -/
inductive Fault where
  /-- The socket did not open, or closed when it should not. -/
  | transport (reason : String)
  /-- Nothing was heard for so long. -/
  | silence (window : Time.Span)
  /-- There is no address to connect to. -/
  | badUrl (reason : String)
  deriving DecidableEq, Repr

/-- The wording of a fault. -/
def Fault.message : Fault → String
  | .transport reason => "transport error: " ++ reason
  | .silence window => "no heartbeat or data for " ++ window.text
  | .badUrl reason => "invalid endpoint url: " ++ reason

end Connection

end Telemetry
