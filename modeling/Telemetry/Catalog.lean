import Std.Data.HashMap
/-!
# Catalogs

Items in the order they were first seen, each under a key of its own. An
index from keys to positions makes looking up and replacing quick; the
items never move, so a position once given stays right.
-/

namespace Telemetry

/-- Items listed in order of arrival, with the position of each key. -/
structure Catalog (κ α : Type) [BEq κ] [Hashable κ] where
  items : Array α
  positions : Std.HashMap κ Nat

namespace Catalog

variable {κ α : Type} [BEq κ] [Hashable κ]

/-- No items. -/
def empty : Catalog κ α := ⟨#[], ∅⟩

instance : Inhabited (Catalog κ α) := ⟨empty⟩

/-- The items in order. -/
def toList (c : Catalog κ α) : List α := c.items.toList

/-- The item of a key. -/
def get? (c : Catalog κ α) (k : κ) : Option α :=
  match c.positions[k]? with
  | some p => c.items[p]?
  | none => none

/-- Puts an item at the end, under a key that has none yet. -/
def push (c : Catalog κ α) (k : κ) (a : α) : Catalog κ α :=
  ⟨c.items.push a, c.positions.insert k c.items.size⟩

/-- Puts an item in the place of the one a key has; a key without one is
listed last. -/
def put (c : Catalog κ α) (k : κ) (a : α) : Catalog κ α :=
  match c.positions[k]? with
  | some p => ⟨c.items.setIfInBounds p a, c.positions⟩
  | none => c.push k a

/-- The catalog of items under their keys. -/
def ofArray (key : α → κ) (items : Array α) : Catalog κ α :=
  let start : Std.HashMap κ Nat × Nat := (∅, 0)
  ⟨items, (items.foldl (fun s a => (s.1.insert (key a) s.2, s.2 + 1)) start).1⟩

end Catalog

end Telemetry
