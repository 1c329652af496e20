import Telemetry.Feed.Basic
import Telemetry.Logging.Filter
/-!
# Session — reports

The log lines a session writes about itself.
-/

namespace Telemetry

namespace Session

/-- A log line. -/
inductive Report where
  /-- What the sources show has changed. -/
  | shown (readiness : Readiness) (summary : String)
  | noSnapshot (l : Location) (reason : String)
  | begun (feed : FeedKind) (sources : Nat)
  | ended (feed : FeedKind)
  deriving DecidableEq, Repr

namespace Report

/-- How important a report is. -/
def level : Report → Logging.Level
  | .noSnapshot _ _ => .warn
  | _ => .info

/-- The text of a report. -/
def message : Report → String
  | .shown _ summary => summary
  | .noSnapshot _ _ => "snapshot unavailable, starting from live data"
  | .begun _ _ => "tailing"
  | .ended _ => "all connections closed"

/-- The further fields of a report. -/
def fields : Report → List (String × Json.Value)
  | .shown readiness _ => [("state", .text readiness.name)]
  | .noSnapshot l reason => [("location", .text l.display), ("error", .text reason)]
  | .begun feed sources => [("feed", .text feed.name), ("sources", .int sources)]
  | .ended feed => [("feed", .text feed.name)]

/-- The part of the program that writes reports. -/
def target : String := "live_tail"

/-- The line of a report. -/
def line (r : Report) : String :=
  let shown := r.fields.map fun f => " " ++ f.1 ++ "=" ++ match f.2 with
    | .text s => s
    | v => v.toText
  r.level.name ++ " " ++ target ++ ": " ++ r.message ++ String.join shown

end Report

end Session

end Telemetry
