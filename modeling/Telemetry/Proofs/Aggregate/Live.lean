import Telemetry.Aggregate.Live
import Telemetry.Proofs.Aggregate.Basic
import Telemetry.Proofs.Connection.Turn
/-!
# Aggregate — what connected sources go through

To its sources a connection is a cause of events like any other: what they
show is what `Aggregate.steps` makes of the events they have come to hear
of (`board_step`). A `Chronicle` keeps these events beside the connections,
for as long as an aggregate lives, so that what holds after any events
holds at every moment of every run (`coherent_chronicle`).
-/

namespace Telemetry

namespace Aggregate

variable {ι τ ρ ω : Type}

namespace Live

/-- **The events the sources hear of** when something happens to an
aggregate: what is done to them, or what the callbacks of a connection do to
its source. -/
def heard (s : Setting ι τ ρ ω) (now : Nat) (l : Live ι τ ρ) :
    Event ι → List (Aggregate.Event ι)
  | .board e => [e]
  | .stimulus link x =>
    match l.links[link]? with
    | none => []
    | some k =>
      match planOf s l k.source with
      | none => []
      | some p => (Connection.calls (k.connection.step p now x).2).filterMap (eventOf k.source)
  | .openLinks => []
  | .dropOld => []

/-- **Connections reach the sources through events alone.** -/
theorem board_step (s : Setting ι τ ρ ω) (now : Nat) (l : Live ι τ ρ) (e : Event ι) :
    ((l.step s now e).live.board, (l.step s now e).shown) =
      l.board.steps s.merge s.rows (l.heard s now e) := by
  cases e with
  | board e => simp [step, heard, Aggregate.steps]
  | stimulus link x =>
    simp only [step, stimulate, heard]
    cases l.links[link]? with
    | none => rfl
    | some k =>
      dsimp only
      cases planOf s l k.source <;> rfl
  | openLinks => rfl
  | dropOld => rfl

/-- **What the sources hear of through a connection** comes of what it tells. -/
theorem exists_called_of_mem_heard {s : Setting ι τ ρ ω} {now : Nat} {l : Live ι τ ρ} {link : Nat}
    {x : Connection.Stimulus} {e : Aggregate.Event ι}
    (h : e ∈ l.heard s now (.stimulus link x)) :
    ∃ k p c, l.links[link]? = some k ∧ planOf s l k.source = some p ∧
      c ∈ Connection.calls (k.connection.step p now x).2 ∧ eventOf k.source c = some e := by
  simp only [heard] at h
  cases hlink : l.links[link]? with
  | none => simp [hlink] at h
  | some k =>
    simp only [hlink] at h
    cases hplan : planOf s l k.source with
    | none => simp [hplan] at h
    | some p =>
      simp only [hplan] at h
      obtain ⟨c, hc, he⟩ := List.mem_filterMap.1 h
      exact ⟨k, p, c, rfl, hplan, hc, he⟩

/-- **What is dialed** is an address of the plan of a connection. -/
theorem exists_address_of_mem_dialed {s : Setting ι τ ρ ω} {now : Nat} {l : Live ι τ ρ}
    {e : Event ι} {u : Url} (h : u ∈ (l.step s now e).dialed) :
    ∃ link x k p n, e = .stimulus link x ∧ l.links[link]? = some k ∧
      planOf s l k.source = some p ∧ p.address n = .ok u := by
  cases e with
  | board e => cases h
  | stimulus link x =>
    simp only [step, stimulate] at h
    cases hlink : l.links[link]? with
    | none => simp [hlink] at h
    | some k =>
      simp only [hlink] at h
      cases hplan : planOf s l k.source with
      | none => simp [hplan] at h
      | some p =>
        simp only [hplan] at h
        obtain ⟨n, hn⟩ := Connection.address_of_mem_dials_step _ _ _ _ h
        exact ⟨link, x, k, p, n, rfl, hlink, hplan, hn⟩
  | openLinks => cases h
  | dropOld => cases h

/-- The plan of a connection is that of the location of its source. -/
theorem exists_location_of_planOf {s : Setting ι τ ρ ω} {l : Live ι τ ρ} {source : Nat}
    {p : Connection.Plan ι} (h : planOf s l source = some p) : ∃ location, p = s.plan location := by
  obtain ⟨x, -, rfl⟩ := Option.map_eq_some_iff.1 h
  exact ⟨x.location, rfl⟩

/-- A connection makes its own source fail, and gives up when it does. -/
theorem terminal_of_failure? {source i : Nat} {c : Connection.Callback ι} {e : Aggregate.Event ι}
    {reason : String} (he : eventOf source c = some e) (hfailure : e.failure? i = some reason) :
    source = i ∧ ∃ f, c = .terminal f := by
  cases c with
  | terminal f =>
    obtain rfl := Option.some.inj he
    have hi : source = i := by
      by_contra hne
      simp [Event.failure?, hne] at hfailure
    exact ⟨hi, f, rfl⟩
  | data batch =>
    obtain rfl := Option.some.inj he
    cases hfailure
  | heartbeat =>
    obtain rfl := Option.some.inj he
    cases hfailure
  | state state epoch => cases he

/-- What is done to the sources by others than their connections. -/
def Event.outside? : Event ι → Option (Aggregate.Event ι)
  | .board e => some e
  | _ => none

theorem filterMap_outside_snoc (es : List (Nat × Event ι)) (e : Nat × Event ι) :
    (es ++ [e]).filterMap (·.2.outside?) =
      es.filterMap (·.2.outside?) ++ e.2.outside?.toList := by
  cases h : e.2.outside? <;> simp [h]

/-- **Sources whose connections never give up** fail only if others say so. -/
theorem failures_heard {s : Setting ι τ ρ ω}
    (hplan : ∀ l f, ¬ (s.plan l).Allows (.terminal f)) (now : Nat) (l : Live ι τ ρ) (e : Event ι)
    (i : Nat) : failures i (l.heard s now e) = failures i e.outside?.toList := by
  cases e with
  | board e => rfl
  | stimulus link x =>
    refine List.filterMap_eq_nil_iff.2 fun e he => Option.eq_none_iff_forall_ne_some.2 ?_
    intro reason hfailure
    obtain ⟨k, p, c, -, hp, hc, hevent⟩ := exists_called_of_mem_heard he
    obtain ⟨-, f, rfl⟩ := terminal_of_failure? hevent hfailure
    obtain ⟨location, rfl⟩ := exists_location_of_planOf hp
    exact hplan location f (Connection.allows_step _ _ _ _ _ hc)
  | openLinks => rfl
  | dropOld => rfl

end Live

/-- An aggregate with the events its sources have heard of and the overviews
it has shown. -/
structure Chronicle (ι τ ρ : Type) where
  live : Live ι τ ρ
  heard : List (Event ι)
  shown : List (Overview ρ)

namespace Chronicle

/-- Nothing has happened yet. -/
def fresh (s : Setting ι τ ρ ω) (locations : List Location) : Chronicle ι τ ρ :=
  ⟨.fresh s locations, [], []⟩

/-- Something happens at a time. -/
def next (s : Setting ι τ ρ ω) (c : Chronicle ι τ ρ) (e : Nat × Live.Event ι) : Chronicle ι τ ρ :=
  let outcome := c.live.step s e.1 e.2
  ⟨outcome.live, c.heard ++ c.live.heard s e.1 e.2, c.shown ++ outcome.shown⟩

/-- The chronicle of what has happened to an aggregate since some moment, each
event at its time. -/
def since (s : Setting ι τ ρ ω) (l : Live ι τ ρ) (es : List (Nat × Live.Event ι)) :
    Chronicle ι τ ρ :=
  es.foldl (next s) ⟨l, [], []⟩

/-- The chronicle of an aggregate to which some things have happened, each
at its time. -/
def of (s : Setting ι τ ρ ω) (locations : List Location) (es : List (Nat × Live.Event ι)) :
    Chronicle ι τ ρ :=
  es.foldl (next s) (fresh s locations)

theorem since_snoc (s : Setting ι τ ρ ω) (l : Live ι τ ρ) (es : List (Nat × Live.Event ι))
    (e : Nat × Live.Event ι) : since s l (es ++ [e]) = next s (since s l es) e :=
  List.foldl_concat ..

theorem of_snoc (s : Setting ι τ ρ ω) (locations : List Location) (es : List (Nat × Live.Event ι))
    (e : Nat × Live.Event ι) : of s locations (es ++ [e]) = next s (of s locations es) e :=
  List.foldl_concat ..

/-- What has happened since some moment has happened in two parts. -/
theorem since_append (s : Setting ι τ ρ ω) (l : Live ι τ ρ)
    (es es' : List (Nat × Live.Event ι)) :
    since s l (es ++ es') =
      let first := since s l es
      let others := since s first.live es'
      ⟨others.live, first.heard ++ others.heard, first.shown ++ others.shown⟩ := by
  induction es' using List.reverseRecOn with
  | nil => simp [since]
  | append_singleton es' e ih =>
    rw [← List.append_assoc, since_snoc, ih]
    simp only [since_snoc, next, List.append_assoc]

/-- **The sources** are as the events heard since then have left them. -/
theorem board_since (s : Setting ι τ ρ ω) (l : Live ι τ ρ) (es : List (Nat × Live.Event ι)) :
    ((since s l es).live.board, (since s l es).shown) =
      l.board.steps s.merge s.rows (since s l es).heard := by
  induction es using List.reverseRecOn with
  | nil => rfl
  | append_singleton es e ih =>
    obtain ⟨hboard, hshown⟩ := Prod.mk.inj ih
    rw [since_snoc, next, steps_append, ← hboard, ← Live.board_step, ← hshown]

/-- Each of them by itself. -/
theorem getElem?_sources_since (s : Setting ι τ ρ ω) (l : Live ι τ ρ)
    (es : List (Nat × Live.Event ι)) (i : Nat) :
    (since s l es).live.board.sources[i]? =
      (l.board.sources[i]?).map ((since s l es).heard.foldl (Source.after s.merge s.rows i)) := by
  rw [(Prod.mk.inj (board_since s l es)).1, getElem?_steps]

/-- **The sources of a chronicle** are as the events heard have left them. -/
theorem board_of (s : Setting ι τ ρ ω) (locations : List Location)
    (es : List (Nat × Live.Event ι)) :
    ((of s locations es).live.board, (of s locations es).shown) =
      (Aggregate.fresh s.merge locations).steps s.merge s.rows (of s locations es).heard :=
  board_since s (.fresh s locations) es

/-- No source is moved, added or taken away, -/
theorem map_location_since (s : Setting ι τ ρ ω) (l : Live ι τ ρ)
    (es : List (Nat × Live.Event ι)) :
    (since s l es).live.board.sources.map Source.location =
      l.board.sources.map Source.location := by
  rw [(Prod.mk.inj (board_since s l es)).1, map_location_steps]

/-- so they stay in the order in which their locations were given. -/
theorem locations_of (s : Setting ι τ ρ ω) (locations : List Location)
    (es : List (Nat × Live.Event ι)) :
    (of s locations es).live.board.sources.map Source.location = locations := by
  rw [(Prod.mk.inj (board_of s locations es)).1, locations_steps]

/-- **Sources whose connections never give up** have failed as often as others
have said so. -/
theorem failures_of {s : Setting ι τ ρ ω} (hplan : ∀ l f, ¬ (s.plan l).Allows (.terminal f))
    (locations : List Location) (es : List (Nat × Live.Event ι)) (i : Nat) :
    failures i (of s locations es).heard = failures i (es.filterMap (·.2.outside?)) := by
  induction es using List.reverseRecOn with
  | nil => rfl
  | append_singleton es e ih =>
    rw [Live.filterMap_outside_snoc, of_snoc, next, failures, failures, List.filterMap_append,
      List.filterMap_append]
    exact congrArg₂ (· ++ ·) ih (Live.failures_heard hplan e.1 _ e.2 i)

end Chronicle

/-- **What connected sources show is coherent** at every moment of every run,
if the merge is candid. -/
theorem coherent_chronicle {s : Setting ι τ ρ ω} (hm : s.merge.Candid) (locations : List Location)
    (es : List (Nat × Live.Event ι)) :
    Coherent s.merge s.rows locations (Chronicle.of s locations es).heard
      (Chronicle.of s locations es).live.board (Chronicle.of s locations es).shown := by
  obtain ⟨hboard, hshown⟩ := Prod.mk.inj (Chronicle.board_of s locations es)
  rw [hboard, hshown]
  exact coherent_steps hm locations _

end Aggregate

end Telemetry
