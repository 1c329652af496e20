import Telemetry.Aggregate.Live
import Telemetry.Config.Basic
import Telemetry.Endpoint
import Telemetry.Session.Report
import Telemetry.Snapshot
/-!
# Session — following a feed

A session connects every configured node to one feed and reports each
change of what they show, until it is ended. It may start from snapshots:
then the gates stay shut until every snapshot is in, and live batches
that come meanwhile are merged after it.
-/

namespace Telemetry

namespace Session

/-- Why a session does not start. -/
inductive StartError where
  | needsDatabase (feed : FeedKind)
  | endpoint (f : Connection.Fault)

/-- The wording of a start error. -/
def StartError.message : StartError → String
  | .needsDatabase feed => "the " ++ feed.name ++ " feed needs a database"
  | .endpoint f => f.message

/-- The database in which a feed is asked for, if it belongs to one. -/
def database (c : Config) (feed : FeedKind) : Except StartError (Option String) :=
  match c.database, feed.endpoints.databaseScoped with
  | some db, true => .ok (some db)
  | none, true => .error (.needsDatabase feed)
  | _, false => .ok none

/-- Where the feed of a configuration is offered live. -/
def liveEndpoint (c : Config) (feed : FeedKind) : Except StartError LiveEndpoint :=
  match database c feed with
  | .error e => .error e
  | .ok db => (LiveEndpoint.create c.serverUrl feed.endpoints.live db []).mapError .endpoint

/-- How connections are kept under a configuration. -/
def policy (c : Config) : Connection.Policy :=
  ⟨c.connection.heartbeatTimeout, c.connection.reconnectDelay, c.connection.autoReconnect⟩

variable {ι τ ρ ω : Type}

/-- How the sources of a session are merged, shown and connected. -/
def setting (c : Config) (f : Feed ι τ ρ ω) (e : LiveEndpoint) : Aggregate.Setting ι τ ρ ω :=
  ⟨f.merge c.cutoff, f.rows, fun l => ⟨policy c, fun _ => e.build l, f.read, fun _ _ => false⟩⟩

/-- Sources without connections. -/
def fresh (c : Config) (f : Feed ι τ ρ ω) (e : LiveEndpoint) : Aggregate.Live ι τ ρ :=
  .fresh (setting c f e) c.nodes

/-- How a session begins: at once, or with the gates shut for snapshots. -/
def opening (l : Aggregate.Live ι τ ρ) (seed : Bool) : List (Aggregate.Live.Event ι) :=
  (if seed then l.board.pauseAll.map .board else []) ++ Aggregate.Live.connect

/-- What a snapshot does to the source of its location. -/
def seeding (l : Aggregate.Live ι τ ρ) (node : Location)
    (snapshot : Except Snapshot.Refusal (List ι)) :
    List (Aggregate.Live.Event ι) × List Report :=
  match snapshot with
  | .ok items =>
    ((l.board.index? node).toList.map fun i => .board (.gate i (.seed items)), [])
  | .error r => ([], [.noSnapshot node r.message])

/-- What follows the last snapshot. -/
def seeded (l : Aggregate.Live ι τ ρ) : List (Aggregate.Live.Event ι) :=
  l.board.resumeAll.map .board

/-- The reports on overviews. -/
def reports (f : Feed ι τ ρ ω) (shown : List (Overview ρ)) : List Report :=
  shown.map fun o => .shown o.readiness (f.line o)

/-- The report that a session has begun. -/
def begun (c : Config) (feed : FeedKind) : Report := .begun feed c.nodes.length

end Session

end Telemetry
