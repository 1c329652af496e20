import Telemetry.Proofs.Aggregate.Reported
import Telemetry.Proofs.Config.Validation
import Telemetry.Proofs.Endpoint
import Telemetry.Session.Basic
/-!
# Session — addresses that cannot fail

The server's address is read three times: when a configuration is checked, when
the live endpoint is made, and when snapshots are asked for. Each time something
else is asked of it. What is asked first is enough for the rest: an address under
http or https has a host, so its scheme can be switched and its path extended.

So a configuration that passes the check has an address for every location
(`Addressed`), and connections that try again for ever never give up.
-/

namespace Telemetry

namespace Session

open Aggregate

variable {c : Config}

/-- **What happens to the sources of a session**: what it does to them itself, and
whatever their connections get. -/
inductive Drives {ι τ ρ : Type} (l : Live ι τ ρ) : Live.Event ι → Prop where
  | opening (seed : Bool) (e : Live.Event ι) (h : e ∈ Session.opening l seed) : Drives l e
  | seeding (node : Location) (snapshot : Except Snapshot.Refusal (List ι)) (e : Live.Event ι)
      (h : e ∈ (Session.seeding l node snapshot).1) : Drives l e
  | seeded (e : Live.Event ι) (h : e ∈ Session.seeded l) : Drives l e
  | stimulus (link : Nat) (x : Connection.Stimulus) : Drives l (.stimulus link x)

/-- A session does not itself make a source fail. -/
theorem Drives.failure?_eq_none {ι τ ρ : Type} {l : Live ι τ ρ} {e : Live.Event ι}
    (h : Drives l e) (i : Nat) : e.outside?.bind (Event.failure? i) = none := by
  have hgates : ∀ {es : List (Event ι)} {action : Gate.Action ι} {n : Nat},
      es = (List.range n).map (fun i => .gate i action) → e ∈ es.map Live.Event.board →
        e.outside?.bind (Event.failure? i) = none := by
    rintro _ action n rfl hmem
    obtain ⟨e', he', rfl⟩ := List.mem_map.1 hmem
    obtain ⟨j, -, rfl⟩ := List.mem_map.1 he'
    rfl
  cases h with
  | opening seed e hmem =>
    rcases List.mem_append.1 hmem with hpause | hconnect
    · cases seed with
      | true => exact hgates rfl hpause
      | false => cases hpause
    · simp only [Live.connect, List.mem_cons, List.not_mem_nil, or_false] at hconnect
      rcases hconnect with rfl | rfl | rfl <;> rfl
  | seeding node snapshot e hmem =>
    cases snapshot with
    | error r => cases hmem
    | ok items =>
      obtain ⟨j, -, rfl⟩ := List.mem_map.1 hmem
      rfl
  | seeded e hmem => exact hgates rfl hmem
  | stimulus link x => rfl

/-- **A configuration whose addresses cannot fail.** -/
structure Addressed (c : Config) : Prop where
  /-- Every live endpoint of the server has an address for every location. -/
  live : ∀ endpoint database params, ∃ e,
    LiveEndpoint.create c.serverUrl endpoint database params = .ok e ∧
      ∀ l, ∃ u, e.build l = .ok u
  /-- Snapshots can be asked for. -/
  snapshots : ∀ database, ∃ s, SnapshotEndpoint.create c.serverUrl database = .ok s
  /-- A session starts, unless its feed needs a database and there is none. -/
  starts : ∀ feed, (∃ e, liveEndpoint c feed = .ok e) ∨
    liveEndpoint c feed = .error (.needsDatabase feed) ∧ c.database = none ∧
      feed.endpoints.databaseScoped = true
  /-- Each attempt of its connections has an address, -/
  attempts : ∀ {ι τ ρ ω : Type} (f : Feed ι τ ρ ω) feed e, liveEndpoint c feed = .ok e →
    ∀ l n, ∃ u, ((setting c f e).plan l).address n = .ok u
  /-- so one that tries again for ever never gives up, whatever happens to it. -/
  endless : c.connection.autoReconnect = true →
    ∀ {ι τ ρ ω : Type} (f : Feed ι τ ρ ω) feed e, liveEndpoint c feed = .ok e →
    ∀ l es fault, .terminal fault ∉ (Connection.course ((setting c f e).plan l) es).told
  /-- In every run of the sources one fails only if others than its connections
  say so, -/
  reported : c.connection.autoReconnect = true →
    ∀ {ι τ ρ ω : Type} (f : Feed ι τ ρ ω) feed e, liveEndpoint c feed = .ok e → ∀ es i,
    failures i (Chronicle.of (setting c f e) c.nodes es).heard =
      failures i (es.filterMap (·.2.outside?))
  /-- and the session does not: its sources never give up, and none is ever shown
  as failed. -/
  unfailed : c.connection.autoReconnect = true →
    ∀ {ι τ ρ ω : Type} (f : Feed ι τ ρ ω) feed e, liveEndpoint c feed = .ok e → ∀ es,
    (∀ event ∈ es, ∃ l : Live ι τ ρ, Drives l event.2) →
    ∀ s ∈ (Chronicle.of (setting c f e) c.nodes es).live.board.sources,
    s.givenUp = false ∧ ∀ reason, s.slot ≠ .noData reason

/-- What the rules say of a server's address. -/
theorem parse_of_validate (h : c.validate = .ok ()) :
    ∃ base socket, Url.parse c.serverUrl = .ok base ∧ Endpoint.SocketScheme base.scheme socket := by
  obtain ⟨base, hparse, hscheme⟩ := (Config.validate_eq_ok_iff.1 h).server
  rcases hscheme with hplain | hsecure
  · exact ⟨base, _, hparse, hplain ▸ Endpoint.SocketScheme.plain⟩
  · exact ⟨base, _, hparse, hsecure ▸ Endpoint.SocketScheme.secure⟩

/-- The live endpoint of a session is one of the server's. -/
theorem exists_create {feed : FeedKind} {e : LiveEndpoint} (h : liveEndpoint c feed = .ok e) :
    ∃ endpoint database, LiveEndpoint.create c.serverUrl endpoint database [] = .ok e := by
  unfold liveEndpoint at h
  split at h
  · cases h
  · next database hdatabase =>
    refine ⟨feed.endpoints.live, database, ?_⟩
    cases hcreate : LiveEndpoint.create c.serverUrl feed.endpoints.live database [] with
    | ok e' =>
      rw [hcreate] at h
      exact congrArg Except.ok (Except.ok.inj h)
    | error f =>
      rw [hcreate] at h
      cases h

/-- A session starts if the live endpoints of its server can be made, unless its
feed needs a database and there is none. -/
theorem liveEndpoint_cases
    (hlive : ∀ endpoint database, ∃ e,
      LiveEndpoint.create c.serverUrl endpoint database [] = .ok e) (feed : FeedKind) :
    (∃ e, liveEndpoint c feed = .ok e) ∨
      liveEndpoint c feed = .error (.needsDatabase feed) ∧ c.database = none ∧
        feed.endpoints.databaseScoped = true := by
  have hstarts : ∀ db, database c feed = .ok db → ∃ e, liveEndpoint c feed = .ok e := by
    intro db hdb
    obtain ⟨e, hcreate⟩ := hlive feed.endpoints.live db
    exact ⟨e, by simp only [liveEndpoint, hdb, hcreate]; rfl⟩
  cases hscoped : feed.endpoints.databaseScoped with
  | false => exact .inl (hstarts none (by simp [database, hscoped]))
  | true =>
    cases hdatabase : c.database with
    | some db => exact .inl (hstarts (some db) (by simp [database, hscoped, hdatabase]))
    | none =>
      refine .inr ⟨?_, rfl, rfl⟩
      simp [liveEndpoint, database, hscoped, hdatabase]

/-- **What has passed the check has addresses.** It is enough to know that of the
endpoints of its server. -/
theorem Addressed.of
    (hlive : ∀ endpoint database params, ∃ e,
      LiveEndpoint.create c.serverUrl endpoint database params = .ok e ∧
        ∀ l, ∃ u, e.build l = .ok u)
    (hsnapshots : ∀ database, ∃ s, SnapshotEndpoint.create c.serverUrl database = .ok s) :
    Addressed c := by
  have hattempts : ∀ {ι τ ρ ω : Type} (f : Feed ι τ ρ ω) feed e, liveEndpoint c feed = .ok e →
      ∀ l n, ∃ u, ((setting c f e).plan l).address n = .ok u := by
    intro ι τ ρ ω f feed e he l n
    obtain ⟨endpoint, database, hcreate⟩ := exists_create he
    obtain ⟨e', hcreate', hbuild⟩ := hlive endpoint database []
    obtain rfl := Except.ok.inj (hcreate.symm.trans hcreate')
    exact hbuild l
  have hplan : c.connection.autoReconnect = true → ∀ {ι τ ρ ω : Type} (f : Feed ι τ ρ ω) feed e,
      liveEndpoint c feed = .ok e →
        ∀ l fault, ¬ ((setting c f e).plan l).Allows (.terminal fault) := by
    intro hauto ι τ ρ ω f feed e he l fault hallows
    -- only the want of an address would be a reason
    obtain ⟨n, hnone⟩ := hallows hauto
    obtain ⟨u, hu⟩ := hattempts f feed e he l n
    cases hnone.symm.trans hu
  exact {
    live := hlive
    snapshots := hsnapshots
    starts := liveEndpoint_cases fun endpoint database =>
      (hlive endpoint database []).imp fun _ he => he.1
    attempts := hattempts
    endless := fun hauto _ _ _ _ f feed e he l es fault hmem =>
      hplan hauto f feed e he l fault (Connection.allows_course es _ hmem)
    reported := fun hauto _ _ _ _ f feed e he es i =>
      Chronicle.failures_of (hplan hauto f feed e he) c.nodes es i
    unfailed := fun hauto _ _ _ _ f feed e he es hdriven s hs => by
      obtain ⟨i, hi⟩ := List.mem_iff_getElem?.1 hs
      have hnone : failures i (es.filterMap (·.2.outside?)) = [] := by
        rw [failures, List.filterMap_filterMap, List.filterMap_eq_nil_iff]
        intro event hevent
        obtain ⟨l, hdrives⟩ := hdriven event hevent
        exact hdrives.failure?_eq_none i
      have hfollows := follows_chronicle (setting c f e) c.nodes es i s hi
      rw [Chronicle.failures_of (hplan hauto f feed e he), hnone] at hfollows
      exact hfollows.unfailed }

/-- **A configuration that passes the check has an address for every
location.** -/
theorem addressed_of_validate (h : c.validate = .ok ()) : Addressed c := by
  obtain ⟨base, socket, hparse, hscheme⟩ := parse_of_validate h
  refine .of (fun endpoint database params => ?_) fun database => ?_
  · refine ⟨_, Endpoint.create_live hparse hscheme endpoint database params, fun l => ?_⟩
    exact Endpoint.exists_build hparse hscheme _ database params l
  · have hregular := Url.regular_of_parse hparse hscheme.special.1 hscheme.ne_file.1
    exact ⟨_, Endpoint.create_snapshot hparse hregular.path database⟩

/-- A server with a user, a port, a query and a fragment, and parameters that are
sent with each request. -/
theorem addressed_of_validate_secure :
    let c := { Config.standard with
      serverUrl := "https://me@[::1]:8443/base?x=1#top", nodes := [⟨"B", some 2⟩] }
    c.validate = .ok () ∧ Addressed c ∧ c.connection.autoReconnect = true ∧
      ((LiveEndpoint.create c.serverUrl "/live/" (some "a/ü") [("k", "v w")]).toOption.bind
        fun e => (e.build ⟨"B", some 2⟩).toOption.map Url.text) =
          some ("wss://me@[::1]:8443/base/databases/a%2F%C3%BC/live" ++
            "?x=1&nodeTag=B&shardNumber=2&k=v+w#top") := by
  intro c
  have hpasses : c.validate.toOption = some () := by decide +kernel
  have hvalid : c.validate = .ok () := ok_of_toOption hpasses
  exact ⟨hvalid, addressed_of_validate hvalid, rfl, by decide +kernel⟩

end Session

end Telemetry
