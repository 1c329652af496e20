import Telemetry.Endpoint
import Telemetry.Proofs.Url
/-!
# Endpoints — live feeds and their snapshots

A source is seeded from one address and then follows another. For every server
that is reached over HTTP the two lead to the same place: they differ in the
scheme, and in nothing else (`counterpart_of_parse`). The live address changes
the scheme before anything is appended, which might cost it its port, and lead
to segments that are encoded otherwise; neither happens, because the socket
schemes are special as well and stand for the same ports (`SocketScheme`).
-/

namespace Telemetry

namespace Endpoint

variable {server : String} {base : Url} {scheme socket : List Char}

/-- **A scheme and the socket scheme that belongs to it.** -/
inductive SocketScheme : List Char → List Char → Prop where
  | plain : SocketScheme "http".toList "ws".toList
  | secure : SocketScheme "https".toList "wss".toList

namespace SocketScheme

theorem socketScheme?_eq (h : SocketScheme scheme socket) : socketScheme? scheme = some socket := by
  cases h <;> decide

/-- Both are special. -/
theorem special (h : SocketScheme scheme socket) :
    Url.isSpecialScheme scheme = true ∧ Url.isSpecialScheme socket = true := by
  cases h <;> decide

/-- Neither is that of files. -/
theorem ne_file (h : SocketScheme scheme socket) :
    scheme ≠ "file".toList ∧ socket ≠ "file".toList := by
  cases h <;> decide

/-- They stand for the same port. -/
theorem defaultPort_eq (h : SocketScheme scheme socket) :
    Url.defaultPort socket = Url.defaultPort scheme := by
  cases h <;> decide

/-- So paths are the same under both. -/
theorem sameKind (h : SocketScheme scheme socket) : Url.SameKind socket scheme :=
  ⟨h.special.2.trans h.special.1.symm,
    (beq_false_of_ne h.ne_file.2).trans (beq_false_of_ne h.ne_file.1).symm⟩

end SocketScheme

/-- **An address and its live counterpart.** -/
structure Counterpart (snapshot live : Url) : Prop where
  /-- The live one has the socket scheme. -/
  schemes : SocketScheme snapshot.scheme live.scheme
  /-- All its other parts are the same. -/
  parts : live = { snapshot with scheme := live.scheme }
  /-- So is the text behind the scheme. -/
  text : ∃ rest, snapshot.text = String.ofList (snapshot.scheme ++ ':' :: rest) ∧
    live.text = String.ofList (live.scheme ++ ':' :: rest)

/-- A change of scheme makes a counterpart. -/
theorem counterpart_withScheme {u : Url} (h : SocketScheme u.scheme socket) :
    Counterpart u { u with scheme := socket } := by
  obtain ⟨rest, htext⟩ := u.exists_text_eq
  exact ⟨h, rfl, rest, htext u.scheme, htext socket⟩

/-- A live feed of a server that is read is found below the switched base. -/
theorem create_live (hparse : Url.parse server = .ok base) (h : SocketScheme base.scheme socket)
    (endpoint : String) (database : Option String) (params : List (String × String)) :
    LiveEndpoint.create server endpoint database params =
      .ok ⟨{ base with scheme := socket }, trimSlashes endpoint.toList, database, params⟩ := by
  have hregular := Url.regular_of_parse hparse h.special.1 h.ne_file.1
  have hswitched := Url.withScheme?_eq_some hregular h.special.2 h.ne_file.2 h.defaultPort_eq
  simp only [LiveEndpoint.create, hparse, h.socketScheme?_eq, hswitched]

/-- It has an address for every location. -/
theorem exists_build (hparse : Url.parse server = .ok base) (h : SocketScheme base.scheme socket)
    (endpoint : List Char) (database : Option String) (params : List (String × String))
    (l : Location) :
    ∃ u, LiveEndpoint.build ⟨{ base with scheme := socket }, endpoint, database, params⟩ l =
      .ok u := by
  have hregular := Url.regular_of_parse hparse h.special.1 h.ne_file.1
  let segments := databaseSegments database ++ Text.splitAt '/' endpoint
  obtain ⟨v, hv, -⟩ := Url.isSome_extendPath hregular.path segments
  have hlive := Url.extendPath_scheme (u := base) h.sameKind segments
  rw [hv] at hlive
  simp only [LiveEndpoint.build]
  rw [hlive]
  exact ⟨_, rfl⟩

/-- Its snapshots are found below the base. -/
theorem create_snapshot (hparse : Url.parse server = .ok base)
    (hpath : ∃ parts, base.path = .segments parts) (database : Option String) :
    SnapshotEndpoint.create server database = .ok ⟨base, database⟩ := by
  obtain ⟨parts, hparts⟩ := hpath
  have hbase : base.cannotBeBase = false := by rw [Url.cannotBeBase, hparts]
  unfold SnapshotEndpoint.create
  rw [hparse]
  change (if base.cannotBeBase = true then _ else _) = _
  rw [hbase]
  rfl

/-- **Live feeds and snapshots are asked for at the same place**, whatever the
server's address, the endpoint, the database and the location. -/
theorem counterpart_of_parse (hparse : Url.parse server = .ok base)
    (hscheme : base.scheme = "http".toList ∨ base.scheme = "https".toList)
    (endpoint : String) (database : Option String) (l : Location) :
    ∃ live snapshots u, LiveEndpoint.create server endpoint database [] = .ok live ∧
      SnapshotEndpoint.create server database = .ok snapshots ∧ live.build l = .ok u ∧
      Counterpart (snapshots.address endpoint l) u ∧
      (snapshots.address endpoint l).scheme = base.scheme := by
  obtain ⟨socket, hsocket⟩ : ∃ socket, SocketScheme base.scheme socket := by
    rcases hscheme with hplain | hsecure
    · exact ⟨_, hplain ▸ SocketScheme.plain⟩
    · exact ⟨_, hsecure ▸ SocketScheme.secure⟩
  have hregular := Url.regular_of_parse hparse hsocket.special.1 hsocket.ne_file.1
  let segments := databaseSegments database ++ Text.splitAt '/' (trimSlashes endpoint.toList)
  obtain ⟨v, hv, hsame⟩ := Url.isSome_extendPath hregular.path segments
  have hlive := Url.extendPath_scheme (u := base) hsocket.sameKind segments
  rw [hv] at hlive
  have haddress : (⟨base, database⟩ : SnapshotEndpoint).address endpoint l =
      v.appendPairs l.queryPairs := by
    simp only [SnapshotEndpoint.address]
    rw [hv]
    rfl
  refine ⟨_, _, ({ v with scheme := socket } : Url).appendPairs l.queryPairs,
    create_live hparse hsocket endpoint database [], create_snapshot hparse hregular.path database,
    ?_, ?_, ?_⟩
  · simp only [LiveEndpoint.build]
    rw [hlive]
    simp
  · rw [haddress]
    exact counterpart_withScheme (u := v.appendPairs l.queryPairs) (hsame.symm ▸ hsocket)
  · rw [haddress]
    exact hsame

/-- A server with a user, a password, a port, a query and a fragment, and a
database whose name is encoded. -/
theorem counterpart_of_parse_secure :
    let server := "https://Us er:p@ss@[::1]:8443/base/?x=1#top"
    let base : Url := ⟨"https".toList, "Us%20er".toList, "p%40ss".toList,
      some (.address6 [0, 0, 0, 0, 0, 0, 0, 1]), some 8443, .segments ["base".toList, []],
      some "x=1".toList, some "top".toList⟩
    Url.parse server = .ok base ∧ base.scheme = "https".toList ∧
      ∃ live snapshots u, LiveEndpoint.create server "/studio/live/" (some "a/ü") [] = .ok live ∧
        SnapshotEndpoint.create server (some "a/ü") = .ok snapshots ∧
        live.build ⟨"B", some 2⟩ = .ok u ∧
        Counterpart (snapshots.address "/studio/live/" ⟨"B", some 2⟩) u ∧
        u.text = "wss://Us%20er:p%40ss@[::1]:8443/base/databases/a%2F%C3%BC/studio/live" ++
          "?x=1&nodeTag=B&shardNumber=2#top" := by
  intro server base
  have hread : (Url.parse server).toOption = some base := by decide +kernel
  have hparse : Url.parse server = .ok base := by
    cases h : Url.parse server with
    | ok u => exact congrArg Except.ok (Option.some.inj ((congrArg _ h).symm.trans hread))
    | error e => cases (congrArg _ h).symm.trans hread
  have htext : ((LiveEndpoint.create server "/studio/live/" (some "a/ü") []).toOption.bind
      fun e => (e.build ⟨"B", some 2⟩).toOption.map Url.text) =
        some ("wss://Us%20er:p%40ss@[::1]:8443/base/databases/a%2F%C3%BC/studio/live" ++
          "?x=1&nodeTag=B&shardNumber=2#top") := by decide +kernel
  obtain ⟨live, snapshots, u, hlive, hsnapshots, hu, hcounterpart, -⟩ :=
    counterpart_of_parse hparse (.inr rfl) "/studio/live/" (some "a/ü") ⟨"B", some 2⟩
  refine ⟨hparse, rfl, live, snapshots, u, hlive, hsnapshots, hu, hcounterpart, ?_⟩
  rw [hlive] at htext
  simpa [Except.toOption, hu] using htext

end Endpoint

end Telemetry
