import Telemetry.Connection.Fault
/-!
# Connection — states and policy

Where a connection is in its life, and the times that rule it.
-/

namespace Telemetry

namespace Connection

/-- Where a connection is in its life. -/
inductive State where
  /-- No socket has been open yet. -/
  | connecting
  /-- A socket is open. -/
  | live
  /-- A socket was lost, or did not open, and another will be tried. -/
  | reconnecting
  /-- Closed, or given up. -/
  | closed
  deriving DecidableEq, Repr

/-- The name of a state. -/
def State.name : State → String
  | .connecting => "Connecting"
  | .live => "Open"
  | .reconnecting => "Reconnecting"
  | .closed => "Closed"

/-- How a connection is kept. -/
structure Policy where
  /-- The longest silence before a socket counts as dead. -/
  heartbeatTimeout : Time.Span
  /-- The rest between losing a socket and trying the next. -/
  reconnectDelay : Time.Span
  /-- Whether there is a next one. -/
  autoReconnect : Bool
  deriving DecidableEq, Repr

/-- Fifteen seconds of silence, three seconds of rest, and trying again
for ever. -/
def Policy.standard : Policy := ⟨⟨15000⟩, ⟨3000⟩, true⟩

/-- One message of a socket. -/
inductive Frame where
  | text (s : String)
  | ping
  | close
  deriving DecidableEq, Repr

/-- What a connection tells its handler. -/
inductive Callback (ι : Type) where
  /-- A new state, with the epoch it begins in. -/
  | state (s : State) (epoch : Nat)
  | data (batch : List ι)
  | heartbeat
  /-- The connection has given up. -/
  | terminal (f : Fault)

/-- What a callback is called: `data`, `heartbeat`, `terminal`, or
`state:` and the name of the state. -/
def Callback.name {ι : Type} : Callback ι → String
  | .state s _ => "state:" ++ s.name
  | .data _ => "data"
  | .heartbeat => "heartbeat"
  | .terminal _ => "terminal"

end Connection

end Telemetry
