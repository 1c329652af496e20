import Telemetry.Config.Validation
import Telemetry.Feed.Basic
import Telemetry.Text.Split
/-!
# Command line — settings

What can be asked for when the program starts. A setting has a value,
which stands after its name on the command line or else in a variable of
the environment; a switch is there or not. A value is read as soon as it
is known to be given, so that a bad value is reported where it stands.
-/

namespace Telemetry

namespace CommandLine

/-- What takes a value, in the order of the help text. -/
inductive Setting where
  | configPath
  | feed
  | serverUrl
  | database
  | node
  | heartbeatTimeout
  | reconnectDelay
  | cutoff
  | logDir
  | logLevel
  deriving DecidableEq, Repr

/-- What is there or not. -/
inductive Switch where
  /-- Gives up on the first lost socket. -/
  | oneShot
  /-- Starts from snapshots. -/
  | seed
  deriving DecidableEq, Repr

namespace Setting

/-- All settings. -/
def all : List Setting := [.configPath, .feed, .serverUrl, .database, .node, .heartbeatTimeout,
  .reconnectDelay, .cutoff, .logDir, .logLevel]

/-- The name of a setting on the command line. -/
def word : Setting → String
  | .configPath => "config-path"
  | .feed => "feed"
  | .serverUrl => "server-url"
  | .database => "database"
  | .node => "node"
  | .heartbeatTimeout => "heartbeat-timeout-ms"
  | .reconnectDelay => "reconnect-delay-ms"
  | .cutoff => "cutoff"
  | .logDir => "log-dir"
  | .logLevel => "log-level"

/-- The variable of the environment that gives a setting. -/
def environmentName : Setting → String
  | .configPath => "LIVE_TAIL_CONFIG_PATH"
  | .feed => "LIVE_TAIL_FEED"
  | .serverUrl => "LIVE_TAIL_SERVER_URL"
  | .database => "LIVE_TAIL_DATABASE"
  | .node => "LIVE_TAIL_NODES"
  | .heartbeatTimeout => "LIVE_TAIL_HEARTBEAT_TIMEOUT_MS"
  | .reconnectDelay => "LIVE_TAIL_RECONNECT_DELAY_MS"
  | .cutoff => "LIVE_TAIL_CUTOFF"
  | .logDir => "LIVE_TAIL_LOG_DIR"
  | .logLevel => "LIVE_TAIL_LOG_LEVEL"

end Setting

/-- The name of a switch on the command line. -/
def Switch.word : Switch → String
  | .oneShot => "one-shot"
  | .seed => "seed"

/-- Why nothing is started. -/
inductive Stop where
  /-- The help text was asked for. -/
  | help
  /-- The version was asked for. -/
  | version
  | unknown (argument : String)
  | repeated (word : String)
  | missingValue (s : Setting)
  /-- The value is none of those there are, or is empty where it must not
  be. -/
  | badChoice (s : Setting) (value : String)
  /-- The value cannot be read. -/
  | badValue (s : Setting) (value : String)
  /-- A value where none is taken. -/
  | unneededValue (word : String)
  deriving DecidableEq, Repr

/-- What was asked for. -/
structure Choices where
  configPath : Option String
  feed : Option FeedKind
  serverUrl : Option String
  database : Option String
  nodes : List Location
  heartbeatTimeoutMs : Option Nat
  reconnectDelayMs : Option Nat
  cutoff : Option Time.Instant
  logDir : Option String
  logLevel : Option String
  oneShot : Bool
  seed : Bool
  deriving DecidableEq, Repr

namespace Choices

/-- Nothing. -/
def none : Choices :=
  ⟨.none, .none, .none, .none, [], .none, .none, .none, .none, .none, false, false⟩

/-- Whether a setting was given. -/
def has (c : Choices) : Setting → Bool
  | .configPath => c.configPath.isSome
  | .feed => c.feed.isSome
  | .serverUrl => c.serverUrl.isSome
  | .database => c.database.isSome
  | .node => !c.nodes.isEmpty
  | .heartbeatTimeout => c.heartbeatTimeoutMs.isSome
  | .reconnectDelay => c.reconnectDelayMs.isSome
  | .cutoff => c.cutoff.isSome
  | .logDir => c.logDir.isSome
  | .logLevel => c.logLevel.isSome

/-- Whether a switch was given. -/
def isOn (c : Choices) : Switch → Bool
  | .oneShot => c.oneShot
  | .seed => c.seed

/-- Turns a switch on. -/
def turnOn (c : Choices) : Switch → Choices
  | .oneShot => { c with oneShot := true }
  | .seed => { c with seed := true }

/-- Reads the name of a feed. -/
def readFeed (s : String) : Option FeedKind :=
  if s = "etl" then some .etl
  else if s = "logs" then some .logs
  else if s = "nodes" then some .nodes
  else .none

/-- Reads a number of milliseconds, below `2 ^ 64`. -/
def readMillis (s : String) : Option Nat :=
  (Text.readNatural s.toList).filter (· < 0x10000000000000000)

/-- Reads nodes with commas between them. -/
def readNodes (s : String) : Option (List Location) :=
  (Text.splitString ',' s).mapM fun n => (Config.readNode n).toOption

/-- A path, which must not be empty. -/
def readPath (s : String) : Option String := if s.isEmpty then .none else some s

/-- Reads the value of a setting; nodes are added to those given before. -/
def put (c : Choices) (s : Setting) (value : String) : Except Stop Choices :=
  let choice {α : Type} (o : Option α) : Except Stop α := o.elim (.error (.badChoice s value)) .ok
  let good {α : Type} (o : Option α) : Except Stop α := o.elim (.error (.badValue s value)) .ok
  match s with
  | .configPath => do return { c with configPath := some (← choice (readPath value)) }
  | .feed => do return { c with feed := some (← choice (readFeed value)) }
  | .serverUrl => return { c with serverUrl := some value }
  | .database => return { c with database := some value }
  | .node => do return { c with nodes := c.nodes ++ (← good (readNodes value)) }
  | .heartbeatTimeout => do
    return { c with heartbeatTimeoutMs := some (← good (readMillis value)) }
  | .reconnectDelay => do return { c with reconnectDelayMs := some (← good (readMillis value)) }
  | .cutoff => do
    return { c with cutoff := some (← good (Time.Instant.ofLenientStamp value).toOption) }
  | .logDir => do return { c with logDir := some (← choice (readPath value)) }
  | .logLevel => return { c with logLevel := some value }

/-- What goes over the configuration. A single shot never tries again. -/
def overrides (c : Choices) : Overrides where
  serverUrl := c.serverUrl
  database := c.database
  nodes := c.nodes
  heartbeatTimeoutMs := c.heartbeatTimeoutMs
  reconnectDelayMs := c.reconnectDelayMs
  autoReconnect := if c.oneShot then some false else .none
  cutoff := c.cutoff
  logLevel := c.logLevel
  logDir := c.logDir

/-- The feed to tail. -/
def feedKind (c : Choices) : FeedKind := c.feed.getD .etl

end Choices

end CommandLine

end Telemetry
