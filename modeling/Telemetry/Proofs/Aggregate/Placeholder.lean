import Telemetry.Proofs.Aggregate.Reported
/-!
# Aggregate — what is shown stays

A source that has shown something always shows something from then on, so an
overview that is complete stays complete. And a source that has failed shows
the reason, and nothing else, until the sources are connected anew: its gate
goes on as if nothing had happened, but what the gate announces is not shown
while the source has given up (`Lasting`).

Both are said of two moments of a run and the events between them. What an
event keeps (`isReported_after`, `Placeholder.after`) is kept by all of them.
-/

namespace Telemetry

namespace Overview

variable {ρ : Type} {o o' : Overview ρ}

/-! ## Readiness -/

section readiness

variable (hlength : o'.sources.length = o.sources.length)
  (hkept : ∀ (i : Nat) (h : i < o.sources.length) (h' : i < o'.sources.length),
    o.sources[i].2.isReported = true → o'.sources[i].2.isReported = true)

include hlength hkept

/-- While every source that has reported stays reported, what is complete stays
complete. -/
theorem complete_of_kept (h : o.readiness = .complete) : o'.readiness = .complete := by
  rw [readiness_eq_complete] at h ⊢
  obtain ⟨hsome, hall⟩ := h
  constructor
  · rw [← List.length_pos_iff] at hsome ⊢
    omega
  · intro s hs
    obtain ⟨i, hi', rfl⟩ := List.getElem_of_mem hs
    have hi : i < o.sources.length := by omega
    exact hkept i hi hi' (hall _ (List.getElem_mem hi))

/-- And what is not empty does not become empty. -/
theorem ne_empty_of_kept (h : o.readiness ≠ .empty) : o'.readiness ≠ .empty := by
  rw [Ne, readiness_eq_empty] at h ⊢
  intro hall
  refine h fun s hs => ?_
  obtain ⟨i, hi, rfl⟩ := List.getElem_of_mem hs
  have hi' : i < o'.sources.length := by omega
  have hsilent : o'.sources[i].2.isReported = false := hall _ (List.getElem_mem hi')
  by_contra hreported
  have hstays := hkept i hi hi' (by simpa using hreported)
  rw [hsilent] at hstays
  cases hstays

end readiness

/-! ## Lines -/

/-- **The lines of a source stand where it stands**: behind those of the sources
before it. -/
theorem lines_eq_of_getElem? {i : Nat} {s : Location × Slot ρ}
    (h : o.sources[i]? = some s) :
    o.lines = lines ⟨o.sources.take i⟩ ++ sourceLines s ++ lines ⟨o.sources.drop (i + 1)⟩ := by
  obtain ⟨hi, rfl⟩ := List.getElem?_eq_some_iff.1 h
  have hsplit : o.sources.take i ++ o.sources[i] :: o.sources.drop (i + 1) = o.sources := by
    rw [List.getElem_cons_drop, List.take_append_drop]
  have hlines := congrArg (List.flatMap sourceLines) hsplit
  rw [List.flatMap_append, List.flatMap_cons, ← List.append_assoc] at hlines
  exact hlines.symm

end Overview

namespace Aggregate

variable {ι τ ρ ω : Type} {m : Merge ι τ ω} {rows : τ → List ρ}

namespace Source

variable {s : Source ι τ ρ} {i : Nat} {reason : String}

/-! ## Reported for good -/

/-- No event takes back that a source has reported. -/
theorem isReported_after (h : s.slot.isReported = true) (e : Event ι) :
    (after m rows i s e).slot.isReported = true := by
  cases e with
  | gate j action =>
    simp only [after, act_eq]
    split
    · split
      · rfl
      · exact h
    · exact h
  | failed j reason =>
    simp only [after]
    split
    · rfl
    · exact h
  | renew => exact h

theorem isReported_foldl (h : s.slot.isReported = true) (es : List (Event ι)) :
    (es.foldl (after m rows i) s).slot.isReported = true := by
  induction es generalizing s with
  | nil => exact h
  | cons e rest ih => exact ih (isReported_after h e)

/-! ## Placeholders -/

/-- **A source stands as a placeholder** if it has given up and shows the
reason. -/
structure Placeholder (reason : String) (s : Source ι τ ρ) : Prop where
  givenUp : s.givenUp = true
  slot : s.slot = .noData reason

/-- **A placeholder stays through every event** but connecting, with the reason
of another failure if it is one. -/
theorem Placeholder.after (h : Placeholder reason s) {e : Event ι} (he : e ≠ .renew) :
    Placeholder ((e.failure? i).getD reason) (after m rows i s e) := by
  cases e with
  | gate j action =>
    simp only [Source.after, Event.failure?, Option.getD_none]
    split
    · -- whatever the gate announces is not shown
      rw [act_eq]
      simp only [h.givenUp, Bool.not_true, Bool.and_false, Bool.false_eq_true, if_false]
      exact ⟨rfl, h.slot⟩
    · exact h
  | failed j other =>
    by_cases hj : j = i
    · simp only [Source.after, Event.failure?, hj, if_true, Option.getD_some]
      exact ⟨rfl, rfl⟩
    · simpa [Source.after, Event.failure?, hj] using h
  | renew => exact absurd rfl he

/-- A failure makes a placeholder of its source. -/
theorem placeholder_of_failure? {e : Event ι} (h : e.failure? i = some reason) :
    Placeholder reason (after m rows i s e) := by
  cases e with
  | gate j action => cases h
  | failed j other =>
    simp only [Event.failure?] at h
    split at h
    · next hj =>
      obtain rfl := Option.some.inj h
      simp only [after, hj, if_true]
      exact ⟨rfl, rfl⟩
    · cases h
  | renew => cases h

/-- **From a failure on** a source is a placeholder, until the sources are
connected anew. -/
theorem placeholder_foldl {es : List (Event ι)} (hes : .renew ∉ es)
    (h : (failures i es).getLast? = some reason) :
    Placeholder reason (es.foldl (after m rows i) s) := by
  induction es using List.reverseRecOn generalizing reason with
  | nil => cases h
  | append_singleton es e ih =>
    have hbefore : .renew ∉ es := fun hmem => hes (List.mem_append_left _ hmem)
    have hlast : e ≠ .renew := fun heq => hes (by simp [heq])
    rw [List.foldl_append]
    change Placeholder reason (after m rows i _ e)
    rw [failures_snoc] at h
    cases hfailed : e.failure? i with
    | some other =>
      obtain rfl : other = reason := by simpa [hfailed] using h
      exact placeholder_of_failure? hfailed
    | none =>
      have hearlier : (failures i es).getLast? = some reason := by simpa [hfailed] using h
      have hstays : Placeholder ((e.failure? i).getD reason) (after m rows i _ e) :=
        (ih hbefore hearlier).after hlast
      rwa [hfailed] at hstays

end Source

/-! ## All sources -/

section steps

variable {a : Aggregate ι τ ρ} {es : List (Event ι)} {i : Nat} {s s' : Source ι τ ρ}
  {reason : String}

theorem length_steps (a : Aggregate ι τ ρ) (es : List (Event ι)) :
    (a.steps m rows es).1.sources.length = a.sources.length := by
  have hle : ∀ n, (a.steps m rows es).1.sources.length ≤ n ↔ a.sources.length ≤ n := by
    intro n
    rw [← List.getElem?_eq_none_iff, ← List.getElem?_eq_none_iff, getElem?_steps,
      Option.map_eq_none_iff]
  exact Nat.le_antisymm ((hle _).2 (Nat.le_refl _)) ((hle _).1 (Nat.le_refl _))

/-- No events take back that a source has reported. -/
theorem isReported_steps (hs : a.sources[i]? = some s)
    (hs' : (a.steps m rows es).1.sources[i]? = some s') (h : s.slot.isReported = true) :
    s'.slot.isReported = true := by
  rw [getElem?_steps, hs, Option.map_some, Option.some_inj] at hs'
  rw [← hs']
  exact Source.isReported_foldl h es

/-- A source that has failed shows the last reason, unless the sources were
connected after that. -/
theorem slot_steps_of_failed (hes : .renew ∉ es)
    (hs' : (a.steps m rows es).1.sources[i]? = some s')
    (h : (failures i es).getLast? = some reason) : s'.slot = .noData reason := by
  rw [getElem?_steps, Option.map_eq_some_iff] at hs'
  obtain ⟨s, -, rfl⟩ := hs'
  exact (Source.placeholder_foldl hes h).slot

/-- A place of the overview in which something is shown goes on showing
something. -/
theorem isReported_view_steps (i : Nat) (h : i < a.view.sources.length)
    (h' : i < (a.steps m rows es).1.view.sources.length)
    (hreported : a.view.sources[i].2.isReported = true) :
    (a.steps m rows es).1.view.sources[i].2.isReported = true := by
  simp only [view, List.length_map] at h h'
  simp only [view, List.getElem_map] at hreported ⊢
  exact isReported_steps (List.getElem?_eq_getElem h) (List.getElem?_eq_getElem h') hreported

theorem length_view_steps (a : Aggregate ι τ ρ) (es : List (Event ι)) :
    (a.steps m rows es).1.view.sources.length = a.view.sources.length := by
  simp only [view, List.length_map, length_steps]

/-- **A source without data has one line**, in its place. -/
theorem lines_view_of_noData (hs : a.sources[i]? = some s) (h : s.slot = .noData reason) :
    a.view.lines = Overview.lines ⟨a.view.sources.take i⟩ ++ [.noData s.location reason] ++
      Overview.lines ⟨a.view.sources.drop (i + 1)⟩ := by
  have hview : a.view.sources[i]? = some (s.location, .noData reason) := by
    simp [view, hs, h]
  exact Overview.lines_eq_of_getElem? hview

end steps

/-! ## Two moments of a run -/

/-- **What lasts from one moment of a run to a later one**, given the events
before the first and those between the two. -/
structure Lasting (m : Merge ι τ ω) (before since : List (Event ι))
    (a a' : Aggregate ι τ ρ) : Prop where
  /-- What has been reported stays reported. -/
  reported : ∀ (i : Nat) (s s' : Source ι τ ρ), a.sources[i]? = some s →
    a'.sources[i]? = some s' → s.slot.isReported = true → s'.slot.isReported = true
  /-- So an overview that is complete stays complete, -/
  complete : a.view.readiness = .complete → a'.view.readiness = .complete
  /-- and one that is not empty does not become empty. -/
  nonempty : a.view.readiness ≠ .empty → a'.view.readiness ≠ .empty
  /-- A gate goes on with its tree and with what it holds, whether or not its
  source has failed. -/
  gate : ∀ (i : Nat) (s' : Source ι τ ρ), a'.sources[i]? = some s' →
    s'.gate = Gate.run m false (actions i (before ++ since))
  /-- If the sources were not connected in between, one that has failed in
  between shows the reason of the last failure. -/
  placeholder : .renew ∉ since → ∀ (i : Nat) (s' : Source ι τ ρ) (reason : String),
    a'.sources[i]? = some s' → (failures i since).getLast? = some reason →
    s'.slot = .noData reason
  /-- That is its one line, and it stands in its place. -/
  line : .renew ∉ since → ∀ (i : Nat) (s' : Source ι τ ρ) (reason : String),
    a'.sources[i]? = some s' → (failures i since).getLast? = some reason →
    a'.view.lines = Overview.lines ⟨a'.view.sources.take i⟩ ++
      [.noData s'.location reason] ++ Overview.lines ⟨a'.view.sources.drop (i + 1)⟩

/-- **What is shown lasts** from any moment to any later one. -/
theorem lasting_steps (locations : List Location) (before since : List (Event ι)) :
    Lasting m before since ((fresh m locations).steps m rows before).1
      ((fresh m locations).steps m rows (before ++ since)).1 := by
  have hfollows : ∀ (i : Nat) (s : Source ι τ ρ),
      ((fresh m locations).steps m rows (before ++ since)).1.sources[i]? = some s →
        Source.Follows m rows (failures i (before ++ since)) (actions i (before ++ since)) s :=
    follows_steps locations (before ++ since)
  rw [steps_append] at hfollows ⊢
  generalize ((fresh m locations).steps m rows before).1 = a at hfollows ⊢
  exact {
    reported := fun i s s' hs hs' h => isReported_steps hs hs' h
    complete := Overview.complete_of_kept (length_view_steps a since) isReported_view_steps
    nonempty := Overview.ne_empty_of_kept (length_view_steps a since) isReported_view_steps
    gate := fun i s' hs' => (hfollows i s' hs').gate
    placeholder := fun hsince i s' reason hs' h => slot_steps_of_failed hsince hs' h
    line := fun hsince i s' reason hs' h =>
      lines_view_of_noData hs' (slot_steps_of_failed hsince hs' h) }

/-- **What connected sources show lasts**: at every moment of every run, and
given any number of the events that the sources have heard of. -/
theorem lasting_chronicle (s : Setting ι τ ρ ω) (locations : List Location)
    (es : List (Nat × Live.Event ι)) (n : Nat) :
    let c := Chronicle.of s locations es
    Lasting s.merge (c.heard.take n) (c.heard.drop n)
      ((fresh s.merge locations).steps s.merge s.rows (c.heard.take n)).1 c.live.board := by
  intro c
  have hboard : c.live.board = ((fresh s.merge locations).steps s.merge s.rows c.heard).1 :=
    congrArg Prod.fst (Chronicle.board_of s locations es)
  have hlasting : Lasting s.merge (c.heard.take n) (c.heard.drop n)
      ((fresh s.merge locations).steps s.merge s.rows (c.heard.take n)).1
      ((fresh s.merge locations).steps s.merge s.rows (c.heard.take n ++ c.heard.drop n)).1 :=
    lasting_steps locations _ _
  rwa [List.take_append_drop, ← hboard] at hlasting

end Aggregate

end Telemetry
