import Telemetry.Time.Instant
import Telemetry.Text.Quoted
/-!
# Merging

A feed sends batches of items, and a merge folds them into a tree, one
after the other. It says whether the tree changed, so that whoever looks
at the tree can skip the work where it did not, and which items were
passed over.
-/

namespace Telemetry

/-- A time stamp that could not be read. -/
structure StampRefusal where
  field : String
  value : String
  deriving DecidableEq, Repr

/-- The wording of a refused stamp. -/
def StampRefusal.message (r : StampRefusal) : String :=
  "invalid " ++ r.field ++ " timestamp: " ++ Text.quoted r.value

/-- What became of a batch: the tree after it, whether anything was put
into the tree, and the items passed over, in the order of the batch. -/
structure Ingestion (τ ω : Type) where
  tree : τ
  changed : Bool
  skipped : List ω

namespace Ingestion

variable {ι τ ω : Type}

/-- Nothing was put into the tree. -/
def unchanged (t : τ) : Ingestion τ ω := ⟨t, false, []⟩

/-- Something was put into the tree. -/
def moved (t : τ) : Ingestion τ ω := ⟨t, true, []⟩

/-- The ingestion of a part, seen from the whole the part belongs to. -/
def map {σ : Type} (f : τ → σ) (i : Ingestion τ ω) : Ingestion σ ω :=
  ⟨f i.tree, i.changed, i.skipped⟩

/-- Takes in items one after the other. -/
def each (f : τ → ι → Ingestion τ ω) (t : τ) : List ι → Ingestion τ ω
  | [] => unchanged t
  | a :: rest =>
    let first := f t a
    let others := each f first.tree rest
    ⟨others.tree, first.changed || others.changed, first.skipped ++ others.skipped⟩

end Ingestion

/-- A way to fold batches of items into a tree. -/
structure Merge (ι τ ω : Type) where
  /-- The tree before any batch. -/
  initial : τ
  /-- Folds a batch into a tree. -/
  ingest : τ → List ι → Ingestion τ ω

namespace Merge

variable {ι τ ω : Type}

/-- The tree after a batch. -/
def next (m : Merge ι τ ω) (t : τ) (batch : List ι) : τ := (m.ingest t batch).tree

/-- The tree after batches, in order. -/
def replay (m : Merge ι τ ω) (t : τ) (batches : List (List ι)) : τ := batches.foldl m.next t

end Merge

/-- An instant is past a cutoff if it is later, or there is no cutoff. -/
def Time.Instant.past (t : Instant) (cutoff : Option Instant) : Bool :=
  match cutoff with
  | some c => c < t
  | none => true

end Telemetry
