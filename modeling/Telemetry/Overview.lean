import Telemetry.Location
/-!
# Overviews

What the sources of a feed show side by side, in an order that never
changes. A source shows nothing until it has reported, then its rows, or
the reason why it has none.
-/

namespace Telemetry

/-- What one source shows. -/
inductive Slot (ρ : Type) where
  | pending
  | rows (rows : List ρ)
  | noData (reason : String)

/-- Anything but a pending slot is reported. -/
def Slot.isReported {ρ : Type} : Slot ρ → Bool
  | .pending => false
  | _ => true

/-- Whether a slot stands for a failure. -/
def Slot.isFailed {ρ : Type} : Slot ρ → Bool
  | .noData _ => true
  | _ => false

/-- How many of the sources have reported. -/
inductive Readiness where
  | empty
  | incomplete
  | complete
  deriving DecidableEq, Repr

/-- The name of a readiness. -/
def Readiness.name : Readiness → String
  | .empty => "Empty"
  | .incomplete => "Partial"
  | .complete => "Complete"

/-- The slots of all sources. -/
structure Overview (ρ : Type) where
  sources : List (Location × Slot ρ)

namespace Overview

variable {ρ : Type}

/-- Nothing is reported yet. -/
def pending (locations : List Location) : Overview ρ := ⟨locations.map (·, .pending)⟩

/-- The number of sources that have reported. -/
def reported (o : Overview ρ) : Nat := o.sources.countP fun s => s.2.isReported

/-- The number of sources that failed. -/
def failed (o : Overview ρ) : Nat := o.sources.countP fun s => s.2.isFailed

/-- None, some or all of the sources have reported. -/
def readiness (o : Overview ρ) : Readiness :=
  if o.reported = 0 then .empty
  else if o.reported < o.sources.length then .incomplete
  else .complete

/-- Changes the slot of the source at an index, if there is one. -/
def update (o : Overview ρ) (index : Nat) (slot : Slot ρ) : Overview ρ :=
  ⟨o.sources.modify index fun s => (s.1, slot)⟩

/-- The slot of the first source of a location. -/
def slot? (o : Overview ρ) (l : Location) : Option (Slot ρ) := o.sources.lookup l

/-- One line of a table over all sources. -/
inductive Line (ρ : Type) where
  | data (location : Location) (row : ρ)
  | noData (location : Location) (reason : String)

/-- The lines of one source. -/
def sourceLines (source : Location × Slot ρ) : List (Line ρ) :=
  match source.2 with
  | .pending => []
  | .rows rows => rows.map (.data source.1)
  | .noData reason => [.noData source.1 reason]

/-- The rows of all sources, with one line for each that failed. -/
def lines (o : Overview ρ) : List (Line ρ) := o.sources.flatMap sourceLines

end Overview

end Telemetry
