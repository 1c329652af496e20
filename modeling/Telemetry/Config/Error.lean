import Telemetry.Json.Shape
import Telemetry.Location
import Telemetry.Url.Host
/-!
# Config — errors

Why there is no configuration to work with.
-/

namespace Telemetry

namespace Config

/-- A rule that a configuration breaks. -/
inductive Problem where
  | badShard (node : String)
  | emptyTag (node : String)
  | badScheme (scheme : String)
  | noNodes
  | duplicateNode (l : Location)
  | noHeartbeat
  deriving DecidableEq, Repr

/-- The wording of a problem. -/
def Problem.message : Problem → String
  | .badShard node => "bad shard number in '" ++ node ++ "'"
  | .emptyTag node => "empty node tag in '" ++ node ++ "'"
  | .badScheme scheme => "server url must be http or https, got '" ++ scheme ++ "'"
  | .noNodes => "at least one node is required"
  | .duplicateNode l => "duplicate node '" ++ l.display ++ "'"
  | .noHeartbeat => "heartbeat timeout must be positive"

/-- Why a file could not be read. -/
inductive FileFault where
  | notFound
  | isDirectory
  /-- Its bytes are no text. -/
  | invalidData
  deriving DecidableEq, Repr

/-- The name of a file fault. -/
def FileFault.name : FileFault → String
  | .notFound => "NotFound"
  | .isDirectory => "IsADirectory"
  | .invalidData => "InvalidData"

/-- Why there is no configuration. -/
inductive Error where
  | file (f : FileFault)
  | json (e : Json.Error)
  | url (e : Url.ParseError)
  | invalid (p : Problem)

/-- The words before a shape error of a configuration. -/
def shapeMessage (e : Json.ShapeError) : String := "failed to parse configuration: " ++ e.message

/-- The words for an unreadable server address. -/
def urlMessage (e : Url.ParseError) : String := "invalid server url: " ++ e.message

/-- The words for a broken rule. -/
def problemMessage (p : Problem) : String := "invalid configuration: " ++ p.message

end Config

end Telemetry
