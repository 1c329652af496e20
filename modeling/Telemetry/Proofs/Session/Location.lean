import Telemetry.Proofs.Aggregate.Confluence
import Telemetry.Proofs.Aggregate.Live
import Telemetry.Proofs.Config.Validation
import Telemetry.Session.Basic
/-!
# Session — locations are addresses

Whoever has a location looks for the first source of it, in the gates as in what is
shown (`view_slot?`). In a configuration that passes the check no location is given
twice, so the first source of each is its own, whatever has happened to the sources
since (`Addressing.of`). The loop over the nodes that wait for their snapshots relies on
it: each gate is seeded once, with the snapshot of its own location, and the gates of
those whose snapshot failed are not (`seedings_eq`).
-/

namespace Telemetry

namespace Aggregate

variable {ι τ ρ ω : Type} {m : Merge ι τ ω} {rows : τ → List ρ}

/-- What is shown of a location is what its first source shows. -/
theorem view_slot? (a : Aggregate ι τ ρ) (l : Location) :
    a.view.slot? l = ((a.index? l).bind fun i => a.sources[i]?).map Source.slot := by
  obtain ⟨sources⟩ := a
  change (sources.map fun s => (s.location, s.slot)).lookup l =
    ((sources.findIdx? fun s => s.location == l).bind fun i => sources[i]?).map Source.slot
  induction sources with
  | nil => rfl
  | cons s rest ih =>
    rw [List.map_cons, List.lookup_cons, List.findIdx?_cons]
    by_cases hl : s.location = l
    · simp [hl]
    · have hl' : (l == s.location) = false := beq_false_of_ne (Ne.symm hl)
      rw [hl', ih, if_neg (by simpa using hl)]
      cases rest.findIdx? fun s => s.location == l <;> rfl

/-- The source at the place of a location is its own. -/
theorem exists_source {a : Aggregate ι τ ρ} {nodes : List Location}
    (h : a.sources.map Source.location = nodes) {i : Nat} {node : Location}
    (hi : nodes[i]? = some node) : ∃ x, a.sources[i]? = some x ∧ x.location = node := by
  rw [← h, List.getElem?_map] at hi
  exact Option.map_eq_some_iff.1 hi

/-- It is the one that is found, if no location is given twice. -/
theorem index?_of_locations {a : Aggregate ι τ ρ} {nodes : List Location} (hnodup : nodes.Nodup)
    (h : a.sources.map Source.location = nodes) {i : Nat} {node : Location}
    (hi : nodes[i]? = some node) : a.index? node = some i := by
  obtain ⟨x, hx, rfl⟩ := exists_source h hi
  exact index?_of_nodup (h ▸ hnodup) hx

/-- **What marks the source of a location** as one without data. -/
def marking (a : Aggregate ι τ ρ) (l : Location) (reason : String) : List (Event ι) :=
  (a.index? l).toList.map fun i => .failed i reason

/-- It changes what is at the index of the location, and nothing else. -/
theorem getElem?_marking {a : Aggregate ι τ ρ} {l : Location} {i : Nat} (h : a.index? l = some i)
    (reason : String) (j : Nat) : (a.steps m rows (a.marking l reason)).1.sources[j]? =
      (a.sources[j]?).map fun x =>
        if j = i then { x with slot := .noData reason, givenUp := true } else x := by
  rw [marking, h, getElem?_steps]
  simp only [Option.toList_some, List.map_cons, List.map_nil, List.foldl_cons, List.foldl_nil,
    Source.after, eq_comm]

/-- The snapshots that the gate of a source is seeded with. -/
def Event.seed? (i : Nat) : Event ι → Option (List ι)
  | .gate j (.seed items) => if j = i then some items else none
  | _ => none

/-- Those among some events. -/
def seeds (i : Nat) (es : List (Event ι)) : List (List ι) := es.filterMap (Event.seed? i)

theorem seeds_append (i : Nat) (es es' : List (Event ι)) :
    seeds i (es ++ es') = seeds i es ++ seeds i es' := List.filterMap_append

/-- **Connections seed nothing.** -/
theorem seeds_heard (s : Setting ι τ ρ ω) (now : Nat) (l : Live ι τ ρ) (e : Live.Event ι)
    (i : Nat) : seeds i (l.heard s now e) = seeds i e.outside?.toList := by
  cases e with
  | board e => rfl
  | stimulus link x =>
    refine List.filterMap_eq_nil_iff.2 fun e he => ?_
    obtain ⟨k, p, c, -, -, -, hevent⟩ := Live.exists_called_of_mem_heard he
    cases c with
    | state state epoch => cases hevent
    | data batch | heartbeat | terminal f =>
      obtain rfl := Option.some.inj hevent
      rfl
  | openLinks => rfl
  | dropOld => rfl

theorem Chronicle.seeds_since (s : Setting ι τ ρ ω) (l : Live ι τ ρ)
    (es : List (Nat × Live.Event ι)) (i : Nat) :
    seeds i (since s l es).heard = seeds i (es.filterMap (·.2.outside?)) := by
  induction es using List.reverseRecOn with
  | nil => rfl
  | append_singleton es e ih =>
    rw [since_snoc, next, seeds_append, seeds_heard, ih, Live.filterMap_outside_snoc, seeds_append]

end Aggregate

namespace Session

open Aggregate

variable {ι τ ρ ω : Type} {s : Setting ι τ ρ ω} {l : Live ι τ ρ}

/-! ## The loop over the nodes -/

/-- **A snapshot that is waited for**: what happens until it comes, each event at its
time, and what comes when. -/
structure Fetch (ι : Type) where
  meanwhile : List (Nat × Live.Event ι)
  time : Nat
  snapshot : Except Snapshot.Refusal (List ι)

namespace Fetch

/-- What happens while the source at an index is waited for. -/
def course (i : Nat) (fetch : Fetch ι) : List (Nat × Live.Event ι) :=
  fetch.meanwhile ++ fetch.snapshot.toOption.toList.map fun items =>
    (fetch.time, .board (.gate i (.seed items)))

/-- What is reported of the snapshot of a node: why there is none. -/
def reports (node : Location) (fetch : Fetch ι) : List Report :=
  match fetch.snapshot with
  | .ok _ => []
  | .error r => [.noSnapshot node r.message]

end Fetch

/-- **All that happens while one snapshot after the other is waited for**, and what is
reported. Each is handed to the source of its node, as the sources are then. -/
def seedings (s : Setting ι τ ρ ω) (l : Live ι τ ρ) :
    List (Location × Fetch ι) → List (Nat × Live.Event ι) × List Report
  | [] => ([], [])
  | (node, fetch) :: rest =>
    let found := (Chronicle.since s l fetch.meanwhile).live
    let (events, warnings) := Session.seeding found node fetch.snapshot
    let timed := events.map (fetch.time, ·)
    let (later, others) := seedings s (Chronicle.since s found timed).live rest
    (fetch.meanwhile ++ timed ++ later, warnings ++ others)

/-- What a snapshot does to the source at the index of its node. -/
theorem seeding_eq {node : Location} {i : Nat} (h : l.board.index? node = some i)
    (fetch : Fetch ι) : fetch.meanwhile ++
        (Session.seeding l node fetch.snapshot).1.map (fetch.time, ·) = fetch.course i ∧
      (Session.seeding l node fetch.snapshot).2 = fetch.reports node := by
  unfold Session.seeding Fetch.course Fetch.reports
  cases fetch.snapshot with
  | ok items => simp [h, Except.toOption]
  | error r => simp [Except.toOption]

/-- The loop from a node on: the sources of those before it have other places. -/
theorem seedings_append (front : List Location) {nodes : List Location}
    (hnodup : (front ++ nodes).Nodup)
    (hlocations : l.board.sources.map Source.location = front ++ nodes)
    (fetches : List (Fetch ι)) (hlength : fetches.length = nodes.length) :
    seedings s l (nodes.zip fetches) =
      ((fetches.mapIdx fun i fetch => fetch.course (front.length + i)).flatten,
        (nodes.zip fetches).flatMap fun x => x.2.reports x.1) := by
  induction nodes generalizing front l fetches with
  | nil => simp [seedings, List.length_eq_zero_iff.1 hlength]
  | cons node nodes ih =>
    obtain ⟨fetch, fetches, rfl⟩ := List.exists_cons_of_length_eq_add_one hlength
    have hthere : (Chronicle.since s l fetch.meanwhile).live.board.sources.map Source.location =
        front ++ node :: nodes :=
      (Chronicle.map_location_since s l fetch.meanwhile).trans hlocations
    have hindex : (Chronicle.since s l fetch.meanwhile).live.board.index? node =
        some front.length := index?_of_locations hnodup hthere (by simp)
    obtain ⟨hevents, hreports⟩ := seeding_eq hindex fetch
    have hrest := ih (front ++ [node]) (by simpa using hnodup)
      (l := (Chronicle.since s (Chronicle.since s l fetch.meanwhile).live
        ((Session.seeding (Chronicle.since s l fetch.meanwhile).live node
          fetch.snapshot).1.map (fetch.time, ·))).live)
      (by rw [Chronicle.map_location_since, hthere, List.append_cons]) fetches
      (Nat.succ.inj hlength)
    -- the places of the sources that are left begin one later
    have hplace : ∀ i, (front ++ [node]).length + i = front.length + (i + 1) := by
      intro i
      rw [List.length_append, List.length_singleton]
      omega
    rw [List.zip_cons_cons, seedings]
    simp only [hrest, hreports, hevents, hplace]
    rw [List.mapIdx_cons, List.flatten_cons, List.flatMap_cons, Nat.add_zero]

/-- **Each snapshot goes to the source of its own node**, whatever happens while the
loop waits, if no node is given twice. -/
theorem seedings_eq {nodes : List Location} (hnodup : nodes.Nodup)
    (hlocations : l.board.sources.map Source.location = nodes) (fetches : List (Fetch ι))
    (hlength : fetches.length = nodes.length) :
    seedings s l (nodes.zip fetches) =
      ((fetches.mapIdx fun i fetch => fetch.course i).flatten,
        (nodes.zip fetches).flatMap fun x => x.2.reports x.1) := by
  simpa using seedings_append (s := s) [] hnodup hlocations fetches hlength

/-- The parts of a list of which only one is not empty. -/
theorem flatten_mapIdx_ite {α β : Type} (f : α → List β) (as : List α) (i : Nat) :
    (as.mapIdx fun j a => if j = i then f a else []).flatten = ((as[i]?).map f).getD [] := by
  induction as generalizing i with
  | nil => rfl
  | cons a as ih =>
    rw [List.mapIdx_cons, List.flatten_cons]
    cases i with
    | zero => simp
    | succ i => simpa using ih i

/-- A course seeds the source that it is about, if only connections have a say
meanwhile. -/
theorem Fetch.seeds_course {fetch : Fetch ι} (h : ∀ e ∈ fetch.meanwhile, e.2.outside? = none)
    (i j : Nat) : seeds i ((fetch.course j).filterMap (·.2.outside?)) =
      if j = i then fetch.snapshot.toOption.toList else [] := by
  have hmeanwhile : fetch.meanwhile.filterMap (·.2.outside?) = [] :=
    List.filterMap_eq_nil_iff.2 h
  rw [Fetch.course, List.filterMap_append, hmeanwhile, List.nil_append]
  cases fetch.snapshot.toOption with
  | none => simp [seeds]
  | some items => by_cases hj : j = i <;> simp [seeds, Event.seed?, Live.Event.outside?, hj]

/-- **Each source is seeded once, with the snapshot of its own node**, or not at all if
there is none. -/
theorem seeds_seedings {nodes : List Location} (hnodup : nodes.Nodup)
    (hlocations : l.board.sources.map Source.location = nodes) (fetches : List (Fetch ι))
    (hlength : fetches.length = nodes.length)
    (hquiet : ∀ fetch ∈ fetches, ∀ e ∈ fetch.meanwhile, e.2.outside? = none) (i : Nat) :
    seeds i (Chronicle.since s l (seedings s l (nodes.zip fetches)).1).heard =
      ((fetches[i]?).bind fun fetch => fetch.snapshot.toOption).toList := by
  have hcourses : ((fetches.mapIdx fun j fetch => fetch.course j).map fun es =>
        seeds i (es.filterMap (·.2.outside?))) =
      fetches.mapIdx fun j fetch => if j = i then fetch.snapshot.toOption.toList else [] := by
    refine List.ext_getElem? fun j => ?_
    rw [List.getElem?_map, List.getElem?_mapIdx, List.getElem?_mapIdx, Option.map_map]
    exact Option.map_congr fun fetch hfetch =>
      Fetch.seeds_course (hquiet fetch (List.mem_of_getElem? hfetch)) i j
  calc seeds i (Chronicle.since s l (seedings s l (nodes.zip fetches)).1).heard
      = seeds i ((fetches.mapIdx fun j fetch => fetch.course j).flatten.filterMap
          (·.2.outside?)) := by
        rw [Chronicle.seeds_since, seedings_eq hnodup hlocations fetches hlength]
    _ = ((fetches.mapIdx fun j fetch => fetch.course j).map fun es =>
          seeds i (es.filterMap (·.2.outside?))).flatten := by
        rw [seeds, List.filterMap_flatten, List.filterMap_flatten, List.map_map]
        rfl
    _ = ((fetches[i]?).map fun fetch => fetch.snapshot.toOption.toList).getD [] := by
        rw [hcourses, flatten_mapIdx_ite]
    _ = ((fetches[i]?).bind fun fetch => fetch.snapshot.toOption).toList := by
        cases fetches[i]? <;> rfl

/-! ## Addresses -/

/-- **Locations that are addresses** of the sources of a session. -/
structure Addressing (s : Setting ι τ ρ ω) (nodes : List Location) (l : Live ι τ ρ) : Prop where
  /-- The gate of a location is the one in its place. -/
  gate : ∀ (i : Nat) (node : Location), nodes[i]? = some node → l.board.index? node = some i
  /-- To mark it is to change the slot in its place, and no other; what is behind the
  gates stays as it is. -/
  marked : ∀ (i : Nat) (node : Location), nodes[i]? = some node → ∀ (reason : String) (j : Nat),
    (l.board.steps s.merge s.rows (l.board.marking node reason)).1.sources[j]? =
      (l.board.sources[j]?).map fun x =>
        if j = i then { x with slot := .noData reason, givenUp := true } else x
  /-- What is shown of it is the slot in its place. -/
  shown : ∀ (i : Nat) (node : Location), nodes[i]? = some node →
    ∃ x, l.board.sources[i]? = some x ∧
      l.board.view.sources[i]? = some (node, x.slot) ∧
      l.board.view.slot? node = some x.slot
  /-- The loop over the nodes hands each snapshot that comes to the gate in the place of
  its node, whatever happens meanwhile, and reports each that does not come. -/
  handed : ∀ fetches, fetches.length = nodes.length → seedings s l (nodes.zip fetches) =
    ((fetches.mapIdx fun i fetch => fetch.course i).flatten,
      (nodes.zip fetches).flatMap fun x => x.2.reports x.1)
  /-- So each gate is seeded exactly once, with the snapshot of its own location. -/
  seeded : ∀ fetches, fetches.length = nodes.length →
    (∀ fetch ∈ fetches, ∀ e ∈ fetch.meanwhile, e.2.outside? = none) →
    ∀ i fetch, fetches[i]? = some fetch →
      seeds i (Chronicle.since s l (seedings s l (nodes.zip fetches)).1).heard =
        fetch.snapshot.toOption.toList

/-- **Locations are addresses** if no two are the same. -/
theorem Addressing.of {nodes : List Location} (hnodup : nodes.Nodup)
    (hlocations : l.board.sources.map Source.location = nodes) : Addressing s nodes l := by
  have hindex : ∀ i node, nodes[i]? = some node → l.board.index? node = some i :=
    fun i node hi => index?_of_locations hnodup hlocations hi
  refine ⟨hindex, fun i node hi reason j => ?_, fun i node hi => ?_, fun fetches hlength => ?_,
    fun fetches hlength hquiet i fetch hfetch => ?_⟩
  · exact getElem?_marking (hindex i node hi) reason j
  · obtain ⟨x, hx, rfl⟩ := exists_source hlocations hi
    refine ⟨x, hx, ?_, ?_⟩
    · rw [view, List.getElem?_map, hx, Option.map_some]
    · rw [view_slot?, hindex i _ hi, Option.bind_some, hx, Option.map_some]
  · exact seedings_eq hnodup hlocations fetches hlength
  · rw [seeds_seedings hnodup hlocations fetches hlength hquiet, hfetch, Option.bind_some]

/-- **What the check of a configuration is worth.** -/
structure Checked (c : Config) : Prop where
  /-- It passes exactly what keeps the rules, -/
  rules : c.validate = .ok () ↔ c.Valid
  /-- and then locations are addresses, at every moment of every run. -/
  addressing : c.validate = .ok () → ∀ {ι τ ρ ω : Type} (s : Setting ι τ ρ ω) es,
    Addressing s c.nodes (Chronicle.of s c.nodes es).live

/-- **The check makes locations addresses.** -/
theorem checked_validate (c : Config) : Checked c where
  rules := Config.validate_eq_ok_iff
  addressing h _ _ _ _ s es :=
    .of (Config.validate_eq_ok_iff.1 h).nodup (Chronicle.locations_of s c.nodes es)

/-- Nodes that have tags or shards in common, but never both; with one of them given
again the configuration does not pass. -/
theorem checked_validate_shards :
    let c := { Config.standard with
      serverUrl := "http://[::1]:8080"
      nodes := [⟨"A", some 1⟩, ⟨"A", none⟩, ⟨"A", some 0⟩, ⟨"B", some 1⟩] }
    c.validate = .ok () ∧ c.Valid ∧
      ({ c with nodes := ⟨"A", none⟩ :: c.nodes }).validate.toOption = none ∧
      ∃ e, liveEndpoint c .nodes = .ok e ∧
        Addressing (setting c Feed.nodes e) c.nodes
          (Chronicle.of (setting c Feed.nodes e) c.nodes []).live ∧
        (fresh c Feed.nodes e).board.index? ⟨"A", some 0⟩ = some 2 := by
  intro c
  have hpasses : c.validate.toOption = some () := by decide +kernel
  have hvalid : c.validate = .ok () := ok_of_toOption hpasses
  have hstarts : (liveEndpoint c .nodes).toOption.map (·.base.text) =
      some "ws://[::1]:8080/" := by decide +kernel
  obtain ⟨e, he, -⟩ := Option.map_eq_some_iff.1 hstarts
  have haddressing := (checked_validate c).addressing hvalid (setting c Feed.nodes e) []
  exact ⟨hvalid, (checked_validate c).rules.1 hvalid, by decide +kernel, e, ok_of_toOption he,
    haddressing, haddressing.gate 2 ⟨"A", some 0⟩ rfl⟩

end Session

end Telemetry
