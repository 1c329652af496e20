import Telemetry.Config.Node
import Telemetry.Json.Writer
import Telemetry.Time.Reader
import Telemetry.Time.Span
import Telemetry.Text.Utf8
/-!
# Config — configurations

What to subscribe to, how to keep the connections and where to log. Only
the server's address has to be given; everything else has a default. A
configuration is read from the text of a file, and written so that it
reads back the same.
-/

namespace Telemetry

/-- How connections are kept. -/
structure ConnectionSettings where
  heartbeatTimeoutMs : Nat
  reconnectDelayMs : Nat
  autoReconnect : Bool
  deriving DecidableEq, Repr

/-- Where log lines go. -/
structure LoggingSettings where
  level : String
  dir : Option String
  keepFiles : Nat
  deriving DecidableEq, Repr

/-- A configuration. -/
structure Config where
  serverUrl : String
  database : Option String
  nodes : List Location
  connection : ConnectionSettings
  cutoff : Option Time.Instant
  logging : LoggingSettings
  deriving DecidableEq, Repr

namespace ConnectionSettings

/-- Fifteen seconds of silence, three seconds of rest, and trying again
for ever. -/
def standard : ConnectionSettings := ⟨15000, 3000, true⟩

/-- The silence after which a socket counts as dead. -/
def heartbeatTimeout (s : ConnectionSettings) : Time.Span := ⟨s.heartbeatTimeoutMs⟩

/-- The rest before the next attempt. -/
def reconnectDelay (s : ConnectionSettings) : Time.Span := ⟨s.reconnectDelayMs⟩

end ConnectionSettings

/-- Level `info`, no files. -/
def LoggingSettings.standard : LoggingSettings := ⟨"info", none, 1⟩

namespace Config

open Json

/-- A local server and no nodes. -/
def standard : Config := ⟨"http://localhost:8080", none, [], .standard, none, .standard⟩

/-! ## Reading -/

/-- How connection settings are read. -/
def connectionShape :
    Shape Document Json.Error ConnectionSettings ConnectionSettings where
  name := "ConnectionSettings"
  fields := ["heartbeatTimeoutMs", "reconnectDelayMs", "autoReconnect"]
  blank := .standard
  set := fun s key d => match key with
    | "heartbeatTimeoutMs" => do return { s with heartbeatTimeoutMs := (← d.readInt .u64).toNat }
    | "reconnectDelayMs" => do return { s with reconnectDelayMs := (← d.readInt .u64).toNat }
    | "autoReconnect" => do return { s with autoReconnect := ← d.readBool }
    | _ => return s
  finish := .ok

/-- How logging settings are read. -/
def loggingShape : Shape Document Json.Error LoggingSettings LoggingSettings where
  name := "LoggingSettings"
  fields := ["level", "dir", "keepFiles"]
  blank := .standard
  set := fun s key d => match key with
    | "level" => do return { s with level := ← d.readText }
    | "dir" => do return { s with dir := ← d.readOption fun d => d.readTextAs "path string" }
    | "keepFiles" => do return { s with keepFiles := (← d.readInt .usize).toNat }
    | _ => return s
  finish := .ok

/-- Reads a time stamp as people write them. -/
def readCutoff (d : Document) : Except Json.Error Time.Instant := do
  let s ← d.readTextAs "an RFC 3339 formatted date and time string"
  match Time.Instant.ofLenientStamp s with
  | .ok t => return t
  | .error e => .error (.shape (.other e.message))

/-- How a configuration is read. -/
def shape : Shape Document Json.Error (Option String × Config) Config where
  name := "FeedConfig"
  fields := ["serverUrl", "database", "nodes", "connection", "cutoff", "logging"]
  blank := (none, ⟨"", none, [], .standard, none, .standard⟩)
  set := fun (url, c) key d => match key with
    | "serverUrl" => do return (some (← d.readText), c)
    | "database" => do return (url, { c with database := ← d.readOption Document.readText })
    | "nodes" => do return (url, { c with nodes := ← d.readList fun d => d.readRecord nodeShape })
    | "connection" => do return (url, { c with connection := ← d.readRecord connectionShape })
    | "cutoff" => do return (url, { c with cutoff := ← d.readOption readCutoff })
    | "logging" => do return (url, { c with logging := ← d.readRecord loggingShape })
    | _ => return (url, c)
  finish := fun (url, c) => match url with
    | some url => .ok { c with serverUrl := url }
    | none => .error "serverUrl"

/-- **Reads a configuration** from its text. -/
def ofText (s : String) : Except Error Config :=
  match Json.readText (·.readRecord shape) s with
  | .ok c => .ok c
  | .error e => .error (.json e)

/-- What stands at the place of a file. -/
inductive Stored where
  | nothing
  | directory
  | file (bytes : List UInt8)

/-- Reads a configuration from what stands at the place of its file. -/
def ofStored : Stored → Except Error Config
  | .nothing => .error (.file .notFound)
  | .directory => .error (.file .isDirectory)
  | .file bytes =>
    match Text.decodeStrict bytes with
    | some s => ofText s
    | none => .error (.file .invalidData)

/-! ## Writing -/

/-- Writes connection settings; `record` says how fields become a value. -/
def serializeConnection (record : List (String × Value) → Value) (s : ConnectionSettings) :
    Value := record
  [("heartbeatTimeoutMs", .int s.heartbeatTimeoutMs), ("reconnectDelayMs", .int s.reconnectDelayMs),
    ("autoReconnect", .bool s.autoReconnect)]

/-- Writes logging settings. -/
def serializeLogging (record : List (String × Value) → Value) (s : LoggingSettings) :
    Value := record
  [("level", .text s.level), ("dir", .ofOption .text s.dir), ("keepFiles", .int s.keepFiles)]

/-- Writes a configuration. -/
def serialize (record : List (String × Value) → Value) (c : Config) : Value := record
  [("serverUrl", .text c.serverUrl), ("database", .ofOption .text c.database),
    ("nodes", .list (c.nodes.map (serializeNode record))),
    ("connection", serializeConnection record c.connection),
    ("cutoff", .ofOption (fun t => .text t.zuluText) c.cutoff),
    ("logging", serializeLogging record c.logging)]

/-- Logging settings as they are held. -/
def loggingToJson (s : LoggingSettings) : Value := serializeLogging .ofFields s

/-- A configuration as it is held. -/
def toJson (c : Config) : Value := c.serialize .ofFields

/-- The text of a configuration. -/
def toText (c : Config) : String := (c.serialize .object).toText

end Config

end Telemetry
