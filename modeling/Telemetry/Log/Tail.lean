import Telemetry.Log.Entry
import Telemetry.Merge
import Telemetry.Time.Reader
/-!
# Log — the tail of a log

The lines of a log in order of arrival. After a reconnect a server may
send again what it has sent before, so a batch is held against the newest
line known before it came: older lines are dropped, and so are lines of
that very time that are held already. Within a batch the order of the
server stands, whatever the times say.
-/

namespace Telemetry

namespace Log

/-- A line with its time. -/
structure Record where
  entry : Entry
  time : Time.Instant
  deriving DecidableEq, Repr

/-- The lines held, and the latest of their times. -/
structure Tail where
  records : Array Record
  newest : Option Time.Instant
  deriving DecidableEq, Repr

/-- A line that was passed over. -/
structure Skip where
  refusal : StampRefusal

namespace Tail

/-- No lines. -/
def empty : Tail := ⟨#[], none⟩

/-- The later of a time and the latest so far. -/
def later (newest : Option Time.Instant) (t : Time.Instant) : Time.Instant :=
  match newest with
  | some n => max n t
  | none => t

/-- Puts a line at the end. -/
def push (tail : Tail) (r : Record) : Tail :=
  ⟨tail.records.push r, some (later tail.newest r.time)⟩

/-- The very same line is held. -/
def holds (tail : Tail) (r : Record) : Bool := tail.records.contains r

/-- A line may have been sent before: it is older than the newest one of
an earlier batch, or as old and held. -/
def isRepeat (newest : Option Time.Instant) (tail : Tail) (r : Record) : Bool :=
  match newest with
  | some n => r.time < n || (r.time == n && tail.holds r)
  | none => false

/-- Takes in one line of a batch; `newest` is the latest time before the
batch. -/
def absorb (cutoff newest : Option Time.Instant) (tail : Tail) (e : Entry) :
    Ingestion Tail Skip :=
  match Time.Instant.ofStamp? e.time with
  | none => ⟨tail, false, [⟨⟨"Time", e.time⟩⟩]⟩
  | some t =>
    if !t.past cutoff || isRepeat newest tail ⟨e, t⟩ then .unchanged tail
    else .moved (tail.push ⟨e, t⟩)

end Tail

/-- **The merge of log lines** later than a cutoff. -/
def merge (cutoff : Option Time.Instant) : Merge Entry Tail Skip where
  initial := .empty
  ingest := fun tail batch => Ingestion.each (Tail.absorb cutoff tail.newest) tail batch

end Log

end Telemetry
