import Telemetry.Etl.Tree
import Telemetry.Gate
import Telemetry.Log.Tail
import Telemetry.Node.Census
import Telemetry.Node.Roster
/-!
# Feed — the three feeds

A feed ties together what is asked of a server, how its items are read
and merged, and the one line that sums up what all sources show.
-/

namespace Telemetry

/-- The feeds there are. -/
inductive FeedKind where
  | etl
  | logs
  | nodes
  deriving DecidableEq, Repr

/-- The name of a feed in messages. -/
def FeedKind.name : FeedKind → String
  | .etl => "Etl"
  | .logs => "Logs"
  | .nodes => "Nodes"

/-- Where a server offers a feed. -/
structure Endpoints where
  live : String
  snapshot : String
  /-- Whether the endpoints belong to a database. -/
  databaseScoped : Bool

/-- The endpoints of a feed. -/
def FeedKind.endpoints : FeedKind → Endpoints
  | .etl => ⟨"etl/performance/live", "etl/performance", true⟩
  | .logs => ⟨"admin/logs/watch", "admin/logs", false⟩
  | .nodes => ⟨"admin/cluster/nodes/watch", "admin/cluster/nodes", false⟩

/-- A feed of items `ι` that are merged into trees `τ` and shown as rows
`ρ`; items passed over are reported as `ω`. -/
structure Feed (ι τ ρ ω : Type) where
  kind : FeedKind
  read : Json.Value → Except Json.ShapeError ι
  /-- The merge of items after a cutoff. -/
  merge : Option Time.Instant → Merge ι τ ω
  rows : τ → List ρ
  /-- Sums up what all sources show. -/
  line : Overview ρ → String

namespace Feed

/-- The rows of an overview, without the lines of failed sources. -/
def shownRows {ρ : Type} (o : Overview ρ) : List ρ :=
  o.lines.filterMap fun l => match l with
    | .data _ row => some row
    | .noData _ _ => none

/-- The line of the ETL feed. -/
def etlLine (o : Overview Etl.Row) : String :=
  let records := (shownRows o).map Etl.Row.record
  let running := records.countP fun r => !r.isCompleted
  let failed := records.countP Etl.Record.hasErrors
  toString records.length ++ " ETL batches (" ++ toString running ++ " running, " ++
    toString failed ++ " with errors) from " ++ toString o.sources.length ++ " sources, " ++
    toString o.failed ++ " without data"

/-- The last line each source shows. -/
def lastLines (o : Overview Log.Record) : List (Location × Log.Record) :=
  o.sources.filterMap fun s => match s.2 with
    | .rows rows => rows.getLast?.map (s.1, ·)
    | _ => none

/-- The latest of some lines, the last of equally late ones. -/
def latest : List (Location × Log.Record) → Option (Location × Log.Record)
  | [] => none
  | l :: rest => some (rest.foldl (fun best l => if l.2.time < best.2.time then best else l) l)

/-- The line of the log feed. -/
def logLine (o : Overview Log.Record) : String :=
  match latest (lastLines o) with
  | some (l, r) =>
    "[" ++ l.display ++ "] " ++ r.entry.level ++ " " ++ r.entry.logger ++ ": " ++ r.entry.message
  | none => "no log lines yet"

/-- The feed of ETL statistics. -/
def etl : Feed Etl.Task Etl.Tree Etl.Row Etl.Skip where
  kind := .etl
  read := Etl.Task.read
  merge := Etl.merge
  rows := Etl.Tree.rows
  line := etlLine

/-- The feed of log lines. -/
def logs : Feed Log.Entry Log.Tail Log.Record Log.Skip where
  kind := .logs
  read := Log.Entry.read
  merge := Log.merge
  rows := fun tail => tail.records.toList
  line := logLine

/-- The feed of status reports; it knows no cutoff. -/
def nodes : Feed Node.Status Node.Roster Node.Status Empty where
  kind := .nodes
  read := Node.Status.read
  merge := fun _ => Node.merge
  rows := Node.Roster.rows
  line := fun o => (Node.Census.ofOverview o).line

end Feed

end Telemetry
