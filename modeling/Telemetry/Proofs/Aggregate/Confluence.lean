import Mathlib.Data.List.Nodup
import Telemetry.Proofs.Aggregate.Basic
/-!
# Aggregate — no source depends on another

Sources share one overview, and its readiness is counted over all of them
whenever one of them shows something. Still they do not depend on each other:
an event leaves all sources as they were but those it concerns
(`after_of_not_concerns`), so what becomes of a source is what its own events
make of it (`getElem?_steps_own`). In which order the events of different
sources come does not matter then (`Independent.confluent`).

An event finds its source by an index, and whoever has a location looks the
index up. If no location is given twice, each leads to its own source
(`index?_of_nodup`).
-/

namespace Telemetry

namespace Aggregate

variable {ι τ ρ ω : Type} {m : Merge ι τ ω} {rows : τ → List ρ}

/-! ## One source -/

/-- Whether an event concerns the source at an index. Connecting concerns them
all. -/
def Event.concerns (i : Nat) : Event ι → Bool
  | .gate j _ | .failed j _ => j == i
  | .renew => true

/-- The events among some that concern a source, in their order. -/
def own (i : Nat) (es : List (Event ι)) : List (Event ι) := es.filter (Event.concerns i)

/-- An event leaves alone what it does not concern. -/
theorem Source.after_of_not_concerns {i : Nat} {e : Event ι} (h : e.concerns i = false)
    (s : Source ι τ ρ) : after m rows i s e = s := by
  cases e with
  | gate j action =>
    have hj : j ≠ i := by simpa [Event.concerns] using h
    simp [after, hj]
  | failed j reason =>
    have hj : j ≠ i := by simpa [Event.concerns] using h
    simp [after, hj]
  | renew => cases h

/-- Of some events a source feels its own. -/
theorem Source.foldl_after_own (i : Nat) (s : Source ι τ ρ) (es : List (Event ι)) :
    (own i es).foldl (after m rows i) s = es.foldl (after m rows i) s := by
  induction es generalizing s with
  | nil => rfl
  | cons e rest ih =>
    cases h : e.concerns i with
    | true =>
      have hown : own i (e :: rest) = e :: own i rest := List.filter_cons_of_pos h
      rw [hown]
      exact ih _
    | false =>
      have hown : own i (e :: rest) = own i rest := List.filter_cons_of_neg (by simp [h])
      rw [hown, List.foldl_cons, after_of_not_concerns h]
      exact ih s

/-- **What becomes of a source** is what its own events make of it. -/
theorem getElem?_steps_own (a : Aggregate ι τ ρ) (es : List (Event ι)) (i : Nat) :
    (a.steps m rows es).1.sources[i]? =
      (a.sources[i]?).map fun s => (own i es).foldl (Source.after m rows i) s := by
  simp only [getElem?_steps, Source.foldl_after_own]

/-! ## Locations -/

/-- **A location leads to its own source**, if it is the location of no
other. -/
theorem index?_of_nodup {a : Aggregate ι τ ρ} (h : (a.sources.map Source.location).Nodup) {i : Nat}
    {s : Source ι τ ρ} (hs : a.sources[i]? = some s) : a.index? s.location = some i := by
  obtain ⟨hi, rfl⟩ := List.getElem?_eq_some_iff.1 hs
  refine List.findIdx?_eq_some_iff_getElem.2 ⟨hi, by simp, fun j hj => ?_⟩
  have hlt : j < a.sources.length := by omega
  have hne : a.sources[j].location ≠ a.sources[i].location := by
    intro heq
    have hlocations :
        (a.sources.map Source.location)[j]? = (a.sources.map Source.location)[i]? := by
      simp [List.getElem?_eq_getElem hlt, List.getElem?_eq_getElem hi, heq]
    have hij : j = i := (List.getElem?_inj (by simpa using hlt) h).1 hlocations
    omega
  simpa using hne

/-! ## All sources -/

/-- **Sources are independent of each other** if whatever is done to them can be
told source by source. -/
structure Independent (m : Merge ι τ ω) (rows : τ → List ρ) (a : Aggregate ι τ ρ) : Prop where
  /-- If the events of each source come in the same order, they leave the same
  sources: the same gates, with their trees and all that is held, the same
  slots, and the same of them given up. -/
  confluent : ∀ es es', (∀ i < a.sources.length, own i es = own i es') →
    (a.steps m rows es).1 = (a.steps m rows es').1
  /-- What does not concern a source leaves it as it was. -/
  untouched : ∀ e i, e.concerns i = false →
    (a.step m rows e).1.sources[i]? = a.sources[i]?
  /-- If all locations differ, each leads to its own source. -/
  addressed : (a.sources.map Source.location).Nodup → ∀ i s, a.sources[i]? = some s →
    a.index? s.location = some i

/-- **Sources are independent of each other**, wherever they have got to. -/
theorem independent_sources (m : Merge ι τ ω) (rows : τ → List ρ) (a : Aggregate ι τ ρ) :
    Independent m rows a where
  confluent es es' h := by
    have hsources : (a.steps m rows es).1.sources = (a.steps m rows es').1.sources := by
      refine List.ext_getElem? fun i => ?_
      rw [getElem?_steps_own, getElem?_steps_own]
      by_cases hi : i < a.sources.length
      · rw [h i hi]
      · have hnone : a.sources[i]? = none := List.getElem?_eq_none (by omega)
        rw [hnone, Option.map_none, Option.map_none]
    exact congrArg Aggregate.mk hsources
  untouched e i h := by
    rw [getElem?_step]
    simp only [Source.after_of_not_concerns h, Option.map_id']
  addressed hnodup i s hs := index?_of_nodup hnodup hs

end Aggregate

end Telemetry
