import Telemetry.Config.Basic
import Telemetry.Url.Parser
/-!
# Config — layers and rules

Values given elsewhere are laid over a configuration, and the outcome is
checked against the rules that hold across its parts.
-/

namespace Telemetry

/-- Values that go over those of a configuration. -/
structure Overrides where
  serverUrl : Option String
  database : Option String
  /-- Replaces all nodes, unless it is empty. -/
  nodes : List Location
  heartbeatTimeoutMs : Option Nat
  reconnectDelayMs : Option Nat
  autoReconnect : Option Bool
  cutoff : Option Time.Instant
  logLevel : Option String
  logDir : Option String
  deriving DecidableEq, Repr

/-- No values. -/
def Overrides.none : Overrides := ⟨.none, .none, [], .none, .none, .none, .none, .none, .none⟩

namespace Config

/-- Lays values over a configuration. -/
def overlay (c : Config) (o : Overrides) : Config where
  serverUrl := o.serverUrl.getD c.serverUrl
  database := o.database.or c.database
  nodes := if o.nodes.isEmpty then c.nodes else o.nodes
  connection := {
    heartbeatTimeoutMs := o.heartbeatTimeoutMs.getD c.connection.heartbeatTimeoutMs
    reconnectDelayMs := o.reconnectDelayMs.getD c.connection.reconnectDelayMs
    autoReconnect := o.autoReconnect.getD c.connection.autoReconnect }
  cutoff := o.cutoff.or c.cutoff
  logging := {
    level := o.logLevel.getD c.logging.level
    dir := o.logDir.or c.logging.dir
    keepFiles := c.logging.keepFiles }

/-- The first location that occurs a second time. -/
def firstRepeat (seen : List Location) : List Location → Option Location
  | [] => none
  | l :: rest => if l ∈ seen then some l else firstRepeat (l :: seen) rest

/-- **The rules**: an address under http or https, at least one node, no
node twice, and a positive heartbeat timeout. -/
def validate (c : Config) : Except Error Unit :=
  match Url.parse c.serverUrl with
  | .error e => .error (.url e)
  | .ok u =>
    if u.scheme ≠ "http".toList ∧ u.scheme ≠ "https".toList then
      .error (.invalid (.badScheme (String.ofList u.scheme)))
    else if c.nodes.isEmpty then .error (.invalid .noNodes)
    else match firstRepeat [] c.nodes with
      | some l => .error (.invalid (.duplicateNode l))
      | none =>
        if c.connection.heartbeatTimeoutMs = 0 then .error (.invalid .noHeartbeat) else .ok ()

/-- Reads and checks what stands at the place of a file. -/
def load (stored : Stored) : Except Error Config := do
  let c ← ofStored stored
  c.validate
  return c

end Config

end Telemetry
