import Telemetry.Merge
import Telemetry.Payload
/-!
# The gate

A gate stands between a feed and the tree its batches are merged into.
While it is open, each batch is merged as it comes, and the tree is
announced if the merge changed it. While it is shut, batches are held
back untouched; opening it again merges them all, in the order they came,
and announces the tree once. A snapshot taken while the gate is shut goes
before whatever is held, since it tells of an earlier time.

Heartbeats pass a shut gate.
-/

namespace Telemetry

/-- A tree with the batches held back from it. -/
structure Gate (ι τ : Type) where
  tree : τ
  shut : Bool
  held : List (List ι)
  /-- Whether heartbeats are announced. -/
  hearsHeartbeats : Bool

namespace Gate

variable {ι τ ω : Type}

/-- What a gate announces. -/
inductive Notice (τ : Type) where
  | merged (tree : τ)
  | heartbeat

/-- What is done to a gate. -/
inductive Action (ι : Type) where
  | push (batch : List ι)
  | seed (snapshot : List ι)
  | heartbeat
  | pause
  | resume

/-- The action of a payload. -/
def Action.ofPayload : Payload ι → Action ι
  | .results batch => .push batch
  | .heartbeat => .heartbeat

/-- An open gate before the tree a merge starts with. -/
def fresh (m : Merge ι τ ω) (hearsHeartbeats : Bool) : Gate ι τ :=
  ⟨m.initial, false, [], hearsHeartbeats⟩

/-- Merges a batch at once. -/
def mergeNow (m : Merge ι τ ω) (g : Gate ι τ) (batch : List ι) : Gate ι τ × Option (Notice τ) :=
  let i := m.ingest g.tree batch
  ({ g with tree := i.tree }, if i.changed then some (.merged i.tree) else none)

/-- A batch comes in. -/
def push (m : Merge ι τ ω) (g : Gate ι τ) (batch : List ι) : Gate ι τ × Option (Notice τ) :=
  if g.shut then ({ g with held := g.held ++ [batch] }, none) else g.mergeNow m batch

/-- A snapshot comes in. -/
def seed (m : Merge ι τ ω) (g : Gate ι τ) (snapshot : List ι) : Gate ι τ × Option (Notice τ) :=
  if g.shut then ({ g with held := snapshot :: g.held }, none) else g.mergeNow m snapshot

/-- The gate shuts. -/
def pause (g : Gate ι τ) : Gate ι τ := { g with shut := true }

/-- The gate opens. -/
def resume (m : Merge ι τ ω) (g : Gate ι τ) : Gate ι τ × Option (Notice τ) :=
  if g.shut then
    let tree := m.replay g.tree g.held
    ({ g with tree := tree, shut := false, held := [] }, some (.merged tree))
  else (g, none)

/-- **Does one thing to a gate**: the gate after it and what it announces. -/
def act (m : Merge ι τ ω) (g : Gate ι τ) : Action ι → Gate ι τ × Option (Notice τ)
  | .push batch => g.push m batch
  | .seed snapshot => g.seed m snapshot
  | .heartbeat => (g, if g.hearsHeartbeats then some .heartbeat else none)
  | .pause => (g.pause, none)
  | .resume => g.resume m

end Gate

end Telemetry
