import Telemetry.Proofs.Aggregate.Placeholder
import Telemetry.Proofs.Aggregate.Recovery
/-!
# Aggregate — connections that are replaced

Connecting is three actions: failures are forgotten, new connections are opened,
and the old ones are closed. All of them feed the same gates, and until the last
action is done the old ones may go on to do so. So a `Call` has room for whatever
else happens between the three.

What happens to a connection after it was closed is of no account: it tells
nothing (`heard_of_closed`), and it stays closed. Of those that are left each
source has one, so once a call has returned a source gives up only if that one
does, or if others say so (`Call.Replaces`).

What was told before the call has returned stays told: batches that are held stay
held, and a failure reported after the first action is not forgotten. An old
connection that gives up between the first action and the last one therefore takes
its source with it, though it has a new connection by then: the source shows
nothing of that until the next call (`Call.Replaces.overtaken`).
-/

namespace Telemetry

namespace Gate

variable {ι τ ω : Type}

/-- A gate after some actions. -/
def after (m : Merge ι τ ω) (g : Gate ι τ) (as : List (Action ι)) : Gate ι τ :=
  as.foldl (fun g a => (g.act m a).1) g

theorem after_append (m : Merge ι τ ω) (g : Gate ι τ) (as as' : List (Action ι)) :
    g.after m (as ++ as') = (g.after m as).after m as' :=
  List.foldl_append

end Gate

namespace Aggregate

variable {ι τ ρ ω : Type} {m : Merge ι τ ω} {rows : τ → List ρ} {i : Nat}

namespace Source

variable {s : Source ι τ ρ}

/-- The gate of a source is moved by the actions on it, and by nothing else. -/
theorem gate_foldl (s : Source ι τ ρ) (es : List (Event ι)) :
    (es.foldl (after m rows i) s).gate = s.gate.after m (actions i es) := by
  induction es using List.reverseRecOn with
  | nil => rfl
  | append_singleton es e ih =>
    rw [List.foldl_concat, actions_snoc, Gate.after_append, ← ih]
    cases e with
    | gate j a => by_cases hj : j = i <;> simp [after, Event.action?, Gate.after, hj]
    | failed j reason => by_cases hj : j = i <;> simp [after, Event.action?, Gate.after, hj]
    | renew => rfl

/-- A source that has given up since has failed since. -/
theorem exists_failure (hdown : s.givenUp = false) {es : List (Event ι)}
    (hup : (es.foldl (after m rows i) s).givenUp = true) :
    ∃ e ∈ es, ∃ reason, e.failure? i = some reason := by
  by_contra hnone
  have hkept : (es.foldl (after m rows i) s).givenUp = false := by
    refine List.foldlRecOn (motive := fun x : Source ι τ ρ => x.givenUp = false) es _ hdown ?_
    intro x hx e he
    refine givenUp_after hx (Option.eq_none_iff_forall_ne_some.2 fun reason hfailure => ?_)
    exact hnone ⟨e, he, reason, hfailure⟩
  rw [hkept] at hup
  cases hup

end Source

/-! ## The connections in the course of events -/

/-- **A connection goes on**: it feeds the same source, and once it is closed it
stays closed. -/
structure Link.GoesOn (k k' : Link) : Prop where
  source : k'.source = k.source
  closed : k.connection.closed = true → k'.connection.closed = true

theorem Link.GoesOn.refl (k : Link) : k.GoesOn k := ⟨rfl, id⟩

theorem Link.GoesOn.trans {k k' k'' : Link} (h : k.GoesOn k') (h' : k'.GoesOn k'') :
    k.GoesOn k'' :=
  ⟨h'.source.trans h.source, h'.closed ∘ h.closed⟩

namespace Live

variable {s : Setting ι τ ρ ω} {now n : Nat} {l : Live ι τ ρ} {k : Link}

/-- The connections at the front of a list are closed, and no others. -/
theorem getElem?_shutFront (links : List Link) (m n : Nat) :
    (shutFront links m)[n]? = (links[n]?).map fun k =>
      if n < m then { k with connection := k.connection.shut } else k := by
  rw [shutFront, List.getElem?_append, List.length_map, List.length_take]
  by_cases hn : n < m
  · by_cases hlength : n < links.length
    · rw [if_pos (by omega)]
      simp [hn]
    · rw [if_neg (by omega), List.getElem?_drop, List.getElem?_eq_none (by omega),
        List.getElem?_eq_none (by omega)]
      rfl
  · rw [if_neg (by omega), List.getElem?_drop]
    by_cases hlength : n < links.length
    · rw [show m + (n - min m links.length) = n by omega]
      simp [hn]
    · rw [List.getElem?_eq_none (by omega), List.getElem?_eq_none (by omega)]
      rfl

/-- **Every connection goes on**, whatever happens. -/
theorem getElem?_links_step (h : l.links[n]? = some k) (now : Nat) (e : Event ι) :
    ∃ k', (l.step s now e).live.links[n]? = some k' ∧ k.GoesOn k' := by
  cases e with
  | board e => exact ⟨k, h, .refl k⟩
  | stimulus link x =>
    simp only [step, stimulate]
    cases hlink : l.links[link]? with
    | none => exact ⟨k, h, .refl k⟩
    | some k₀ =>
      dsimp only
      cases planOf s l k₀.source with
      | none => exact ⟨k, h, .refl k⟩
      | some p =>
        by_cases hn : link = n
        · subst hn
          obtain rfl := Option.some.inj (hlink.symm.trans h)
          have hlength : link < l.links.length := (List.getElem?_eq_some_iff.1 h).1
          exact ⟨_, List.getElem?_set_self hlength, rfl, Connection.closed_step p now _ x⟩
        · exact ⟨k, (List.getElem?_set_ne hn).trans h, .refl k⟩
  | openLinks =>
    have hlength : n < l.links.length := (List.getElem?_eq_some_iff.1 h).1
    exact ⟨k, (List.getElem?_append_left hlength).trans h, .refl k⟩
  | dropOld =>
    refine ⟨_, (getElem?_shutFront ..).trans (congrArg _ h), ?_, fun hclosed => ?_⟩
    · dsimp only
      split <;> rfl
    · dsimp only
      split
      · exact Connection.closed_shut _
      · exact hclosed

theorem getElem?_links_since (h : l.links[n]? = some k) (es : List (Nat × Event ι)) :
    ∃ k', (Chronicle.since s l es).live.links[n]? = some k' ∧ k.GoesOn k' := by
  induction es using List.reverseRecOn with
  | nil => exact ⟨k, h, .refl k⟩
  | append_singleton es e ih =>
    obtain ⟨k₁, hk₁, hgoes₁⟩ := ih
    obtain ⟨k₂, hk₂, hgoes₂⟩ := getElem?_links_step hk₁ e.1 e.2
    exact ⟨k₂, by rw [Chronicle.since_snoc]; exact hk₂, hgoes₁.trans hgoes₂⟩

/-- Nothing but opening new ones changes how many connections there are, and
where the current ones begin. -/
theorem length_links_step (now : Nat) {e : Event ι} (he : e ≠ .openLinks) :
    (l.step s now e).live.links.length = l.links.length ∧
      (l.step s now e).live.first = l.first := by
  cases e with
  | board e => exact ⟨rfl, rfl⟩
  | stimulus link x =>
    simp only [step, stimulate]
    split
    · exact ⟨rfl, rfl⟩
    · split
      · exact ⟨rfl, rfl⟩
      · exact ⟨List.length_set, rfl⟩
  | openLinks => exact absurd rfl he
  | dropOld =>
    refine ⟨?_, rfl⟩
    simp only [step, shutFront, List.length_append, List.length_map, List.length_take,
      List.length_drop]
    omega

theorem length_links_since {es : List (Nat × Event ι)} (hes : ∀ e ∈ es, e.2 ≠ .openLinks) :
    (Chronicle.since s l es).live.links.length = l.links.length ∧
      (Chronicle.since s l es).live.first = l.first := by
  induction es using List.reverseRecOn with
  | nil => exact ⟨rfl, rfl⟩
  | append_singleton es e ih =>
    obtain ⟨hlength, hfirst⟩ := ih fun e he => hes e (List.mem_append_left _ he)
    obtain ⟨hlength', hfirst'⟩ := length_links_step (s := s) e.1
      (l := (Chronicle.since s l es).live) (hes e (by simp))
    rw [Chronicle.since_snoc]
    exact ⟨hlength'.trans hlength, hfirst'.trans hfirst⟩

theorem length_sources_since (es : List (Nat × Event ι)) :
    (Chronicle.since s l es).live.board.sources.length = l.board.sources.length := by
  rw [(Prod.mk.inj (Chronicle.board_since s l es)).1, length_steps]

/-- **The sources hear of nothing through a closed connection.** -/
theorem heard_of_closed (h : l.links[n]? = some k) (hclosed : k.connection.closed = true)
    (x : Connection.Stimulus) : l.heard s now (.stimulus n x) = [] := by
  refine List.eq_nil_iff_forall_not_mem.2 fun e he => ?_
  obtain ⟨k', p, c, hk', -, hc, -⟩ := exists_called_of_mem_heard he
  obtain rfl := Option.some.inj (h.symm.trans hk')
  rw [Connection.calls_step_of_closed p now _ x hclosed] at hc
  cases hc

/-- **An event makes a source fail**: others say so, or a connection that feeds it
gives up. -/
inductive Fails (s : Setting ι τ ρ ω) (now : Nat) (l : Live ι τ ρ) (i : Nat) : Event ι → Prop where
  | marked (reason : String) : Fails s now l i (.board (.failed i reason))
  | gaveUp {n : Nat} {x : Connection.Stimulus} {k : Link} {p : Connection.Plan ι}
    {f : Connection.Fault} (link : l.links[n]? = some k) (source : k.source = i)
    (plan : planOf s l i = some p)
    (terminal : .terminal f ∈ Connection.calls (k.connection.step p now x).2) :
    Fails s now l i (.stimulus n x)

/-- No source fails but through such an event. -/
theorem fails_of_heard {e : Event ι} {e' : Aggregate.Event ι} {i : Nat} {reason : String}
    (he : e' ∈ l.heard s now e) (hfailure : e'.failure? i = some reason) : Fails s now l i e := by
  cases e with
  | board e =>
    obtain rfl := List.mem_singleton.1 he
    cases e' with
    | failed j r =>
      have hj : j = i := by
        by_contra hne
        simp [Event.failure?, hne] at hfailure
      exact hj ▸ .marked r
    | gate j a => cases hfailure
    | renew => cases hfailure
  | stimulus n x =>
    obtain ⟨k, p, c, hk, hp, hc, hevent⟩ := exists_called_of_mem_heard he
    obtain ⟨rfl, f, rfl⟩ := terminal_of_failure? hevent hfailure
    exact .gaveUp hk rfl hp hc
  | openLinks => cases he
  | dropOld => cases he

/-- A source that has failed in the course of events has failed at one of them. -/
theorem exists_fails_since {i : Nat} {es : List (Nat × Event ι)}
    (h : failures i (Chronicle.since s l es).heard ≠ []) :
    ∃ before e after, es = before ++ e :: after ∧
      Fails s e.1 (Chronicle.since s l before).live i e.2 := by
  induction es using List.reverseRecOn with
  | nil => exact absurd rfl h
  | append_singleton es e ih =>
    rw [Chronicle.since_snoc, Chronicle.next, failures, List.filterMap_append, ← failures,
      ← failures] at h
    by_cases hbefore : failures i (Chronicle.since s l es).heard = []
    · rw [hbefore, List.nil_append] at h
      obtain ⟨reason, hreason⟩ := List.exists_mem_of_ne_nil _ h
      obtain ⟨e', he', hfailure⟩ := List.mem_filterMap.1 hreason
      exact ⟨es, e, [], rfl, fails_of_heard he' hfailure⟩
    · obtain ⟨before, e', after, rfl, hfails⟩ := ih hbefore
      exact ⟨before, e', after ++ [e], by simp, hfails⟩

/-- Nothing but connecting makes the sources forget their failures. -/
theorem renew_notMem_heard {e : Event ι} (he : e ≠ .board .renew) : .renew ∉ l.heard s now e := by
  intro hmem
  cases e with
  | board e =>
    obtain rfl := List.mem_singleton.1 hmem
    exact he rfl
  | stimulus n x =>
    obtain ⟨k, p, c, -, -, -, hevent⟩ := exists_called_of_mem_heard hmem
    cases c <;> cases hevent
  | openLinks => cases hmem
  | dropOld => cases hmem

theorem renew_notMem_heard_since {es : List (Nat × Event ι)}
    (hes : ∀ e ∈ es, e.2 ≠ .board .renew) : .renew ∉ (Chronicle.since s l es).heard := by
  induction es using List.reverseRecOn with
  | nil => exact List.not_mem_nil
  | append_singleton es e ih =>
    rw [Chronicle.since_snoc, Chronicle.next, List.mem_append, not_or]
    exact ⟨ih fun e he => hes e (List.mem_append_left _ he),
      renew_notMem_heard (hes e (by simp))⟩

/-- What the sources do not hear of does nothing to them, and nothing is shown. -/
theorem step_of_unheard {e : Event ι} (h : l.heard s now e = []) :
    (l.step s now e).live.board = l.board ∧ (l.step s now e).shown = [] := by
  have hstep := board_step s now l e
  rw [h] at hstep
  exact Prod.mk.inj hstep

/-! ## Calls -/

/-- Whether an event is part of connecting. -/
def Event.connects : Event ι → Bool
  | .board .renew | .openLinks | .dropOld => true
  | _ => false

theorem Event.ne_openLinks {e : Event ι} (h : e.connects = false) : e ≠ .openLinks := by
  rintro rfl
  cases h

theorem Event.ne_renew {e : Event ι} (h : e.connects = false) : e ≠ .board .renew := by
  rintro rfl
  cases h

/-- **A call that connects the sources**: the times of its three actions, and what
else happens between them. Calls do not overlap. -/
structure Call (ι : Type) where
  clearing : Nat
  opening : Nat
  closing : Nat
  /-- Happens when failures are forgotten and no connection is opened yet. -/
  cleared : List (Nat × Event ι)
  /-- Happens when new connections are open and the old ones not closed yet. -/
  opened : List (Nat × Event ι)
  single : ∀ e ∈ cleared ++ opened, e.2.connects = false

/-- All that happens in the course of a call. -/
def Call.events (call : Call ι) : List (Nat × Event ι) :=
  ((call.clearing, .board .renew) :: call.cleared) ++
    ((call.opening, .openLinks) :: call.opened) ++ [(call.closing, .dropOld)]

/-- If nothing happens between them, the actions are those of `connect`. -/
theorem Call.map_events (call : Call ι) (hcleared : call.cleared = [])
    (hopened : call.opened = []) :
    call.events.map Prod.snd = connect := by
  simp [events, connect, hcleared, hopened]

/-- What a call leaves of connected sources. -/
def Call.leaves (s : Setting ι τ ρ ω) (l : Live ι τ ρ) (call : Call ι) : Live ι τ ρ :=
  (Chronicle.since s l call.events).live

/-- The events the sources hear of in the course of a call. -/
def Call.heard (s : Setting ι τ ρ ω) (l : Live ι τ ρ) (call : Call ι) : List (Aggregate.Event ι) :=
  (Chronicle.since s l call.events).heard

/-- **What a call does**, to connected sources and to what becomes of them. -/
structure Call.Replaces (s : Setting ι τ ρ ω) (l : Live ι τ ρ) (call : Call ι) : Prop where
  /-- It opens one connection for each source, behind all there were. -/
  opened : ∀ i < l.board.sources.length, ∃ k,
    (call.leaves s l).links[l.links.length + i]? = some k ∧ k.source = i
  /-- When it has returned, a connection opened before the call has no say any
  more, whatever it gets: the sources hear of nothing through it, they stay as they
  are, and nothing is shown. -/
  silent : ∀ later, let l' := (Chronicle.since s (call.leaves s l) later).live
    ∀ n < l.links.length, ∀ now x, l'.heard s now (.stimulus n x) = [] ∧
      (l'.step s now (.stimulus n x)).live.board = l'.board ∧
      (l'.step s now (.stimulus n x)).shown = []
  /-- From then on and until the next call, what makes a source give up is that it
  is marked, or that the connection which this call has opened for it gives up. -/
  raised : ∀ later, (∀ e ∈ later, e.2.connects = false) →
    let l' := (Chronicle.since s (call.leaves s l) later).live
    ∀ now e i x y, l'.board.sources[i]? = some x → x.givenUp = false →
      (l'.step s now e).live.board.sources[i]? = some y → y.givenUp = true →
      (∃ reason, e = .board (.failed i reason)) ∨ ∃ stimulus k p f,
        e = .stimulus (l.links.length + i) stimulus ∧
        l'.links[l.links.length + i]? = some k ∧ planOf s l' i = some p ∧
        .terminal f ∈ Connection.calls (k.connection.step p now stimulus).2
  /-- At its return those sources have given up of which a failure was reported in the
  course of the call, and no others. -/
  forgotten : ∀ i y, (call.leaves s l).board.sources[i]? = some y →
    (y.givenUp = true ↔ failures i (call.heard s l) ≠ [])
  /-- Whoever has made such a source fail may have been a connection opened before the
  call: those are closed last. -/
  blamed : ∀ i, failures i (call.heard s l) ≠ [] → ∃ before e after,
    call.events = before ++ e :: after ∧ Fails s e.1 (Chronicle.since s l before).live i e.2
  /-- Until the next call it shows the reason of its last failure, and nothing of what
  the connection brings which this call has opened for it. -/
  overtaken : ∀ later, (∀ e ∈ later, e.2.connects = false) →
    let c := Chronicle.since s (call.leaves s l) later
    ∀ i z, failures i (call.heard s l) ≠ [] → c.live.board.sources[i]? = some z →
      z.givenUp = true ∧ ∃ reason, z.slot = .noData reason ∧
        (failures i (call.heard s l ++ c.heard)).getLast? = some reason
  /-- It leaves the gates alone, with their trees and all they hold: they are as
  what else has happened in the course of the call has left them. -/
  kept : ∀ (i : Nat) (x y : Source ι τ ρ), l.board.sources[i]? = some x →
    (call.leaves s l).board.sources[i]? = some y →
    y.gate = x.gate.after s.merge (actions i (call.heard s l))

namespace Call

variable (s l) (call : Call ι)

/-- **The connections a call opens**, and what comes after. -/
theorem exists_opening : ∃ l₁ : Live ι τ ρ, l₁.first = l.links.length ∧
    l₁.links.length = l.links.length + l.board.sources.length ∧
    (∀ i < l.board.sources.length,
      l₁.links[l.links.length + i]? = some ⟨i, Connection.fresh⟩) ∧
    call.leaves s l =
      ((Chronicle.since s l₁ call.opened).live.step s call.closing .dropOld).live := by
  let l₀ := (Chronicle.since s l ((call.clearing, .board .renew) :: call.cleared)).live
  have hnone : ∀ e ∈ (call.clearing, Event.board .renew) :: call.cleared, e.2 ≠ .openLinks := by
    intro e he
    rcases List.mem_cons.1 he with rfl | he
    · exact nofun
    · exact Event.ne_openLinks (call.single e (List.mem_append_left _ he))
  have hlength : l₀.links.length = l.links.length := (length_links_since hnone).1
  have hsources : l₀.board.sources.length = l.board.sources.length := length_sources_since _
  refine ⟨(l₀.step s call.opening .openLinks).live, hlength, ?_, fun i hi => ?_, ?_⟩
  · simp [step, hlength, hsources]
  · simp [step, hlength, hsources, hi]
  · rw [leaves, events, Chronicle.since_snoc, Chronicle.since_append]
    rfl

/-- Everything opened before the call is closed when it has returned. -/
theorem exists_closed (hn : n < l.links.length) :
    ∃ k, (call.leaves s l).links[n]? = some k ∧ k.connection.closed = true := by
  obtain ⟨l₁, hfirst, hlength, -, hleaves⟩ := call.exists_opening s l
  have hnone : ∀ e ∈ call.opened, e.2 ≠ .openLinks := fun e he =>
    Event.ne_openLinks (call.single e (List.mem_append_right _ he))
  obtain ⟨hlength', hfirst'⟩ := length_links_since (s := s) (l := l₁) hnone
  obtain ⟨k, hk⟩ : ∃ k, (Chronicle.since s l₁ call.opened).live.links[n]? = some k :=
    ⟨_, List.getElem?_eq_getElem (by omega)⟩
  have hold : n < (Chronicle.since s l₁ call.opened).live.first := by omega
  refine ⟨{ k with connection := k.connection.shut }, ?_, Connection.closed_shut _⟩
  rw [hleaves]
  refine (getElem?_shutFront ..).trans ?_
  rw [hk, Option.map_some, if_pos hold]

/-- What was opened in the course of the call feeds the sources, in their order. -/
theorem exists_opened (hi : i < l.board.sources.length) :
    ∃ k, (call.leaves s l).links[l.links.length + i]? = some k ∧ k.source = i := by
  obtain ⟨l₁, -, -, hopened, hleaves⟩ := call.exists_opening s l
  obtain ⟨k₁, hk₁, hgoes₁⟩ := getElem?_links_since (s := s) (hopened i hi) call.opened
  obtain ⟨k₂, hk₂, hgoes₂⟩ := getElem?_links_step (s := s) hk₁ call.closing .dropOld
  exact ⟨k₂, hleaves ▸ hk₂, hgoes₂.source.trans hgoes₁.source⟩

/-- There are no others. -/
theorem length_links_leaves :
    (call.leaves s l).links.length = l.links.length + l.board.sources.length := by
  obtain ⟨l₁, -, hlength, -, hleaves⟩ := call.exists_opening s l
  have hnone : ∀ e ∈ call.opened, e.2 ≠ .openLinks := fun e he =>
    Event.ne_openLinks (call.single e (List.mem_append_right _ he))
  rw [hleaves, (length_links_step _ (e := .dropOld) nofun).1, (length_links_since hnone).1, hlength]

/-- The first that the sources hear of is that they are connected, and they hear it
once. -/
theorem exists_heard : ∃ es, call.heard s l = .renew :: es ∧ .renew ∉ es := by
  have hrest : ∀ e ∈ call.cleared ++ ((call.opening, .openLinks) :: call.opened) ++
      [(call.closing, .dropOld)], e.2 ≠ .board .renew := by
    intro e he
    rw [List.mem_append, List.mem_append, List.mem_cons, List.mem_singleton] at he
    rcases he with (he | rfl | he) | rfl
    · exact Event.ne_renew (call.single e (List.mem_append_left _ he))
    · exact fun h => by cases h
    · exact Event.ne_renew (call.single e (List.mem_append_right _ he))
    · exact fun h => by cases h
  exact ⟨_, congrArg Chronicle.heard (Chronicle.since_append s l [(call.clearing, .board .renew)] _),
    renew_notMem_heard_since hrest⟩

/-- **From a failure in the course of the call on** its source is a placeholder. -/
theorem placeholder_since {later : List (Nat × Event ι)}
    (hlater : ∀ e ∈ later, e.2.connects = false) {z : Source ι τ ρ}
    (hfailed : failures i (call.heard s l) ≠ [])
    (hz : (Chronicle.since s (call.leaves s l) later).live.board.sources[i]? = some z) :
    ∃ reason, Source.Placeholder reason z ∧ (failures i (call.heard s l ++
      (Chronicle.since s (call.leaves s l) later).heard)).getLast? = some reason := by
  obtain ⟨es, hes, hnone⟩ := call.exists_heard s l
  have hlaternone : .renew ∉ (Chronicle.since s (call.leaves s l) later).heard :=
    renew_notMem_heard_since fun e he => Event.ne_renew (hlater e he)
  -- both together are events after which nobody forgets
  rw [Chronicle.getElem?_sources_since, leaves, Chronicle.getElem?_sources_since, Option.map_map,
    Option.map_eq_some_iff, ← heard, hes] at hz
  obtain ⟨x, -, rfl⟩ := hz
  have hfailed' : failures i es ≠ [] := by rwa [hes] at hfailed
  have hsome : failures i (es ++ (Chronicle.since s (call.leaves s l) later).heard) ≠ [] := by
    rw [failures, List.filterMap_append]
    exact List.append_ne_nil_of_left_ne_nil hfailed' _
  obtain ⟨reason, hreason⟩ := Option.ne_none_iff_exists'.1 (List.getLast?_eq_none_iff.not.2 hsome)
  refine ⟨reason, ?_, by rw [hes]; exact hreason⟩
  have hplaceholder : Source.Placeholder reason
      ((es ++ (Chronicle.since s (call.leaves s l) later).heard).foldl
        (Source.after s.merge s.rows i) (Source.after s.merge s.rows i x .renew)) :=
    Source.placeholder_foldl (List.not_mem_append hnone hlaternone) hreason
  rw [List.foldl_append] at hplaceholder
  exact hplaceholder

/-- A connection that makes a source fail after the call has returned is the one
that the call has opened for it. -/
theorem own_of_fails {later : List (Nat × Event ι)} (hlater : ∀ e ∈ later, e.2.connects = false)
    {now n i : Nat} {k : Link} {p : Connection.Plan ι} {c : Connection.Callback ι}
    {x : Connection.Stimulus}
    (hk : (Chronicle.since s (call.leaves s l) later).live.links[n]? = some k)
    (hi : k.source = i) (hc : c ∈ Connection.calls (k.connection.step p now x).2) :
    n = l.links.length + i := by
  have hlength := (length_links_since (s := s) (l := call.leaves s l) fun e he =>
    Event.ne_openLinks (hlater e he)).1
  have hn : n < l.links.length + l.board.sources.length := by
    rw [← length_links_leaves s l call, ← hlength]
    exact (List.getElem?_eq_some_iff.1 hk).1
  rcases Nat.lt_or_ge n l.links.length with hold | hnew
  · -- an old one is closed, and tells nothing
    obtain ⟨k₀, hk₀, hclosed⟩ := call.exists_closed s l hold
    obtain ⟨k₁, hk₁, hgoes⟩ := getElem?_links_since (s := s) hk₀ later
    obtain rfl := Option.some.inj (hk.symm.trans hk₁)
    rw [Connection.calls_step_of_closed p now _ x (hgoes.closed hclosed)] at hc
    cases hc
  · obtain ⟨j, rfl⟩ := Nat.exists_eq_add_of_le hnew
    obtain ⟨k₀, hk₀, hsource⟩ := call.exists_opened s l (i := j) (by omega)
    obtain ⟨k₁, hk₁, hgoes⟩ := getElem?_links_since (s := s) hk₀ later
    obtain rfl := Option.some.inj (hk.symm.trans hk₁)
    rw [← hi, hgoes.source, hsource]

/-- **A connection that is replaced has no say**, whatever has happened before the
call and whatever happens in the course of it. -/
theorem replaces_links : call.Replaces s l where
  opened i hi := call.exists_opened s l hi
  silent := by
    intro later l' n hn now x
    obtain ⟨k, hk, hclosed⟩ := call.exists_closed s l hn
    obtain ⟨k', hk', hgoes⟩ := getElem?_links_since (s := s) hk later
    have hheard : l'.heard s now (.stimulus n x) = [] :=
      heard_of_closed hk' (hgoes.closed hclosed) x
    exact ⟨hheard, step_of_unheard hheard⟩
  raised := by
    intro later hlater l' now e i x y hx hdown hy hup
    have hboard := congrArg Prod.fst (board_step s now l' e)
    dsimp only at hboard
    rw [hboard, getElem?_steps, hx, Option.map_some, Option.some_inj] at hy
    obtain ⟨e', he', reason, hfailure⟩ := Source.exists_failure hdown (hy ▸ hup)
    obtain r | ⟨hk, hsource, hp, hc⟩ := fails_of_heard he' hfailure
    · exact .inl ⟨r, rfl⟩
    · obtain rfl := call.own_of_fails s l hlater hk hsource hc
      exact .inr ⟨_, _, _, _, rfl, hk, hp, hc⟩
  forgotten := by
    intro i y hy
    constructor
    · intro hup hnone
      obtain ⟨es, hes, -⟩ := call.exists_heard s l
      rw [leaves, Chronicle.getElem?_sources_since, Option.map_eq_some_iff, ← heard, hes] at hy
      obtain ⟨x, -, rfl⟩ := hy
      rw [hes] at hnone
      obtain ⟨e, he, reason, hfailure⟩ :=
        Source.exists_failure (s := Source.after s.merge s.rows i x .renew) rfl hup
      rw [failures, List.filterMap_eq_nil_iff] at hnone
      cases (hnone e (List.mem_cons_of_mem _ he)).symm.trans hfailure
    · intro hfailed
      have hlater : ∀ e ∈ ([] : List (Nat × Event ι)), e.2.connects = false :=
        fun e he => by cases he
      obtain ⟨reason, hplaceholder, -⟩ := call.placeholder_since s l hlater hfailed hy
      exact hplaceholder.givenUp
  blamed i hfailed := exists_fails_since hfailed
  overtaken := by
    intro later hlater c i z hfailed hz
    obtain ⟨reason, hplaceholder, hlast⟩ := call.placeholder_since s l hlater hfailed hz
    exact ⟨hplaceholder.givenUp, reason, hplaceholder.slot, hlast⟩
  kept := by
    intro i x y hx hy
    rw [leaves, Chronicle.getElem?_sources_since, hx, Option.map_some, Option.some_inj] at hy
    rw [← hy]
    exact Source.gate_foldl x _

/-- Sources whose connections are tried once, and whose trees count the batches. -/
def onceEach : Setting Unit Nat Nat Unit where
  merge := ⟨0, fun n _ => .moved (n + 1)⟩
  rows n := [n]
  plan _ := ⟨⟨⟨15000⟩, ⟨3000⟩, false⟩, fun _ => .ok ⟨[], [], [], none, none, .flat [], none, none⟩,
    fun _ => .ok (), fun _ _ => false⟩

/-- One such source, with its connection open. -/
def onceOpen : Live Unit Nat Nat :=
  (Chronicle.of onceEach [⟨"A", none⟩]
    [(0, .openLinks), (0, .stimulus 0 .start), (0, .stimulus 0 (.dialed (.ok ())))]).live

/-- A call in the course of which the new connection opens, and the old one, which is to
be closed next, is closed by the other end. -/
def tooLate : Call Unit where
  clearing := 1
  opening := 1
  closing := 1
  cleared := []
  opened := [(1, .stimulus 1 .start), (1, .stimulus 1 (.dialed (.ok ()))),
    (1, .stimulus 0 (.frame 0 .close))]
  single := by decide

/-- The failure of the old connection is reported in the course of that call, so
whatever the new one brings, no rows are shown before the next call. -/
theorem replaces_links_tooLate :
    failures 0 (tooLate.heard onceEach onceOpen) = ["transport error: closed by remote host"] ∧
      ∀ later, (∀ e ∈ later, e.2.connects = false) →
        ∀ z, (Chronicle.since onceEach (tooLate.leaves onceEach onceOpen)
            later).live.board.sources[0]? = some z →
          z.givenUp = true ∧ ∃ reason, z.slot = .noData reason := by
  have hheard : failures 0 (tooLate.heard onceEach onceOpen) =
      ["transport error: closed by remote host"] := by decide +kernel
  refine ⟨hheard, fun later hlater z hz => ?_⟩
  obtain ⟨hup, reason, hslot, -⟩ :=
    (replaces_links onceEach onceOpen tooLate).overtaken later hlater 0 z
      (by rw [hheard]; exact List.cons_ne_nil _ _) hz
  exact ⟨hup, reason, hslot⟩

/-- Nobody has marked the source and the connection opened for it is as good as new, but
the source has given up; a batch that the connection brings gets into the tree and is
not shown. -/
theorem silenced_by_replaced :
    let left := tooLate.leaves onceEach onceOpen
    let batch := "\x7b\"Results\":[1]\x7d"
    let fed := (Chronicle.since onceEach left [(2, .stimulus 1 (.frame 0 (.text batch)))]).live
    (tooLate.events.filterMap fun e =>
        (Event.outside? e.2).bind (Aggregate.Event.failure? 0)) = [] ∧
      left.links.map (fun k => (k.source, k.connection.state)) = [(0, .closed), (0, .live)] ∧
      left.board.sources.map Source.givenUp = [true] ∧
      fed.board.sources.map (fun x => x.gate.tree) = [1] ∧
      fed.board.sources.map (fun x => x.slot.isFailed) = [true] ∧
      fed.board.sources.map Source.givenUp = [true] := by
  decide +kernel

end Call

end Live

end Aggregate

end Telemetry
