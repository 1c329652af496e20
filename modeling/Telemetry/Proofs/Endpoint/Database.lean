import Telemetry.Proofs.Session
import Telemetry.Proofs.Url.Path
/-!
# Endpoints — databases in paths

A feed of a database is asked for below a segment that stands for the name of the
database, and so are its snapshots (`Scoped.path`). That holds of every name that
can be said as a segment. Where it can, the segment ends at the first slash or
question mark behind it, as no name is written with either, and so the address
tells the name (`eq_of_text`).

Of other names the address tells nothing: some are left out, and some are shortened
to others (`unsaid_database`). And where the server's own path is two slashes both
of its segments are taken for none.
-/

namespace Telemetry

namespace Url

variable {u : Url} {parts front rest rest' : List (List Char)}

/-- **What a special URL is extended to.** -/
theorem extendPath_of_special (hspecial : u.isSpecial = true) (hfile : u.scheme ≠ "file".toList)
    (hparts : u.path = .segments parts) (texts : List (List Char)) :
    u.extendPath texts = some { u with
      path := .segments (texts.foldl (pushSegment true false) (popEmpty parts)) } := by
  rw [extendPath, hparts]
  simp only [hspecial, beq_false_of_ne hfile]

/-- **The text of an address tells its segments**, one after the other. -/
theorem segmentOf_eq_of_text {host : Host} (hhost : u.host = some host) {special : Bool}
    {text text' q q' : List Char}
    (h : ({ u with
        path := .segments (front ++ segmentOf special text :: rest), query := some q } : Url).text =
      ({ u with
        path := .segments (front ++ segmentOf special text' :: rest'), query := some q' } :
          Url).text) :
    segmentOf special text = segmentOf special text' := by
  -- an address with a query, cut before the segment
  have htext : ∀ text rest q, ({ u with
        path := .segments (front ++ segmentOf special text :: rest), query := some q } : Url).text =
      String.ofList (u.scheme ++ ':' :: u.authorityText ++ front.flatMap ('/' :: ·) ++ ['/'] ++
        (segmentOf special text ++ (rest.flatMap ('/' :: ·) ++
          '?' :: (q ++ (u.fragment.map ('#' :: ·)).getD [])))) := by
    intro text rest q
    rw [Url.text]
    simp [authorityText, hhost, pathText, userinfoText]
  have hends : ∀ (rest : List (List Char)) (q : List Char), ∃ c more,
      rest.flatMap ('/' :: ·) ++ '?' :: (q ++ (u.fragment.map ('#' :: ·)).getD []) = c :: more ∧
        endsSegment c = true := by
    rintro (_ | ⟨segment, rest⟩) q
    · exact ⟨_, _, rfl, rfl⟩
    · exact ⟨_, _, rfl, rfl⟩
  rw [htext, htext, String.ofList_inj, List.append_cancel_left_eq] at h
  rw [← takeWhile_segmentOf (hends rest q), h, takeWhile_segmentOf (hends rest' q')]

theorem Regular.exists_host (h : Regular u) : ∃ host, u.host = some host := by
  have hnames := h.host
  cases hhost : u.host with
  | none => simp [namesHost, hhost] at hnames
  | some host => exact ⟨host, rfl⟩

end Url

namespace Endpoint

open Url (LeadsTo Sayable segmentOf stem popEmpty)

variable {server database database' endpoint endpoint' : String} {base : Url}
  {socket : List Char} {parts : List (List Char)}

/-- The segments that name an endpoint. -/
def segments (endpoint : String) : List (List Char) :=
  Text.splitAt '/' (trimSlashes endpoint.toList)

/-- The path that an endpoint of a database is asked for at. -/
def databasePath (parts : List (List Char)) (database endpoint : String) : List (List Char) :=
  (databaseSegments (some database) ++ segments endpoint).foldl (Url.pushSegment true false)
    (popEmpty parts)

/-- Whether a database and an endpoint in it can be named in a path. -/
def Named (database endpoint : String) : Prop :=
  ∀ text ∈ database.toList :: segments endpoint, Sayable text

instance (database endpoint : String) : Decidable (Named database endpoint) :=
  inferInstanceAs (Decidable (∀ text ∈ _, _))

/-- **Such a path leads to the database** exactly if it can be named, unless the
server's own is two empty segments. -/
theorem leadsTo_databasePath (parts : List (List Char)) (database endpoint : String) :
    LeadsTo parts database.toList (segments endpoint) (databasePath parts database endpoint) ↔
      parts ≠ [[], []] ∧ Named database endpoint :=
  Url.leadsTo_iff true parts (segments endpoint) database.toList

theorem databasePath_of_named (h : Named database endpoint) (parts : List (List Char)) :
    databasePath parts database endpoint = stem (popEmpty parts) ++ ["databases".toList] ++
      segmentOf true database.toList :: (segments endpoint).map (segmentOf true) :=
  Url.foldl_databases_of_sayable (popEmpty parts) h

/-! ## Addresses -/

/-- The address of a live feed, -/
theorem exists_live_address (hparse : Url.parse server = .ok base)
    (h : SocketScheme base.scheme socket) (hparts : base.path = .segments parts)
    (endpoint database : String) (params : List (String × String)) (l : Location) :
    ∃ live q, LiveEndpoint.create server endpoint (some database) params = .ok live ∧
      live.build l = .ok { base with
        scheme := socket, path := .segments (databasePath parts database endpoint),
        query := some q } := by
  refine ⟨_, (l.queryPairs ++ params).foldl Url.appendPair (base.query.getD []),
    create_live hparse h endpoint (some database) params, ?_⟩
  have hpath := Url.extendPath_of_special (u := { base with scheme := socket }) h.special.2
    h.ne_file.2 hparts
  simp only [LiveEndpoint.build]
  rw [hpath]
  rfl

/-- and that of its snapshots. -/
theorem exists_snapshot_address (hparse : Url.parse server = .ok base)
    (h : SocketScheme base.scheme socket) (hparts : base.path = .segments parts)
    (endpoint database : String) (l : Location) :
    ∃ snapshots q, SnapshotEndpoint.create server (some database) = .ok snapshots ∧
      snapshots.address endpoint l = { base with
        path := .segments (databasePath parts database endpoint), query := some q } := by
  refine ⟨_, l.queryPairs.foldl Url.appendPair (base.query.getD []),
    create_snapshot hparse ⟨parts, hparts⟩ (some database), ?_⟩
  simp only [SnapshotEndpoint.address]
  rw [Url.extendPath_of_special h.special.1 h.ne_file.1 hparts]
  rfl

/-- **An address is of one database.** -/
theorem eq_of_text {u : Url} (hhost : ∃ host, u.host = some host) (h : Named database endpoint)
    (h' : Named database' endpoint') {q q' : List Char}
    (htext : ({ u with
        path := .segments (databasePath parts database endpoint), query := some q } : Url).text =
      ({ u with
        path := .segments (databasePath parts database' endpoint'), query := some q' } :
          Url).text) :
    database = database' := by
  obtain ⟨host, hhost⟩ := hhost
  rw [databasePath_of_named h, databasePath_of_named h'] at htext
  exact String.toList_inj.1 (Url.eq_of_segmentOf (h _ List.mem_cons_self)
    (h' _ List.mem_cons_self) (Url.segmentOf_eq_of_text hhost htext))

/-- **Addresses that are scoped to databases.** -/
structure Scoped (server : String) (parts : List (List Char)) : Prop where
  /-- The feed of every source of a database has an address, and so have its snapshots;
  both have one path. It leads from that of the server to the database, and in it to
  the endpoint, exactly if both can be named, unless the server's own path is two
  empty segments. -/
  path : ∀ endpoint database params l, ∃ live snapshots u path,
    LiveEndpoint.create server endpoint (some database) params = .ok live ∧
      SnapshotEndpoint.create server (some database) = .ok snapshots ∧ live.build l = .ok u ∧
      u.path = .segments path ∧ (snapshots.address endpoint l).path = .segments path ∧
      (LeadsTo parts database.toList (segments endpoint) path ↔
        parts ≠ [[], []] ∧ Named database endpoint)
  /-- Feeds of two databases that can be named never share an address, whatever the
  endpoints, parameters and locations, -/
  feeds : ∀ database database' endpoint endpoint' params params' l l' live live' u u',
    Named database endpoint → Named database' endpoint' →
    LiveEndpoint.create server endpoint (some database) params = .ok live →
    LiveEndpoint.create server endpoint' (some database') params' = .ok live' →
    live.build l = .ok u → live'.build l' = .ok u' → database ≠ database' → u.text ≠ u'.text
  /-- and neither do snapshots. -/
  snapshots : ∀ database database' endpoint endpoint' l l' snapshots snapshots',
    Named database endpoint → Named database' endpoint' →
    SnapshotEndpoint.create server (some database) = .ok snapshots →
    SnapshotEndpoint.create server (some database') = .ok snapshots' → database ≠ database' →
    (snapshots.address endpoint l).text ≠ (snapshots'.address endpoint' l').text

/-- **Addresses of a server that is reached over HTTP are scoped to databases.** -/
theorem Scoped.of_parse (hparse : Url.parse server = .ok base)
    (h : SocketScheme base.scheme socket) (hparts : base.path = .segments parts) :
    Scoped server parts := by
  have hregular := Url.regular_of_parse hparse h.special.1 h.ne_file.1
  refine ⟨fun endpoint database params l => ?_, ?_, ?_⟩
  · obtain ⟨live, q, hlive, hu⟩ := exists_live_address hparse h hparts endpoint database params l
    obtain ⟨snapshots, q', hsnapshots, haddress⟩ :=
      exists_snapshot_address hparse h hparts endpoint database l
    exact ⟨live, snapshots, _, databasePath parts database endpoint, hlive, hsnapshots, hu, rfl,
      by rw [haddress], leadsTo_databasePath parts database endpoint⟩
  · intro database database' endpoint endpoint' params params' l l' live live' u u' hnamed hnamed'
      hlive hlive' hu hu' hne htext
    obtain ⟨_, q, hcreate, hbuild⟩ :=
      exists_live_address hparse h hparts endpoint database params l
    obtain ⟨_, q', hcreate', hbuild'⟩ :=
      exists_live_address hparse h hparts endpoint' database' params' l'
    obtain rfl := Except.ok.inj (hlive.symm.trans hcreate)
    obtain rfl := Except.ok.inj (hlive'.symm.trans hcreate')
    obtain rfl := Except.ok.inj (hu.symm.trans hbuild)
    obtain rfl := Except.ok.inj (hu'.symm.trans hbuild')
    exact hne (eq_of_text (u := { base with scheme := socket }) hregular.exists_host hnamed hnamed'
      htext)
  · intro database database' endpoint endpoint' l l' snapshots snapshots' hnamed hnamed'
      hsnapshots hsnapshots' hne htext
    obtain ⟨_, q, hcreate, haddress⟩ :=
      exists_snapshot_address hparse h hparts endpoint database l
    obtain ⟨_, q', hcreate', haddress'⟩ :=
      exists_snapshot_address hparse h hparts endpoint' database' l'
    obtain rfl := Except.ok.inj (hsnapshots.symm.trans hcreate)
    obtain rfl := Except.ok.inj (hsnapshots'.symm.trans hcreate')
    rw [haddress, haddress'] at htext
    exact hne (eq_of_text hregular.exists_host hnamed hnamed' htext)

/-- **The addresses of a configuration that passes the check** are scoped to
databases. -/
theorem scoped_of_validate {c : Config} (h : c.validate = .ok ()) :
    ∃ base parts, Url.parse c.serverUrl = .ok base ∧ base.path = .segments parts ∧
      Scoped c.serverUrl parts := by
  obtain ⟨base, socket, hparse, hscheme⟩ := Session.parse_of_validate h
  have hregular := Url.regular_of_parse hparse hscheme.special.1 hscheme.ne_file.1
  obtain ⟨parts, hparts⟩ := hregular.path
  exact ⟨base, parts, hparse, hparts, .of_parse hparse hscheme hparts⟩

/-- A name that is nothing but what has to be encoded, below a path that ends with a
slash. -/
theorem scoped_of_validate_encoded :
    let c := { Config.standard with
      serverUrl := "https://[::1]:8443/base/?x=1", nodes := [⟨"B", some 2⟩] }
    c.validate = .ok () ∧ Scoped c.serverUrl ["base".toList, []] ∧ Named " /\\%ü?" "/etl/watch/" ∧
      ∃ live snapshots u path,
        LiveEndpoint.create c.serverUrl "/etl/watch/" (some " /\\%ü?") [("k", "v")] = .ok live ∧
          SnapshotEndpoint.create c.serverUrl (some " /\\%ü?") = .ok snapshots ∧
          live.build ⟨"B", some 2⟩ = .ok u ∧ u.path = .segments path ∧
          (snapshots.address "/etl/watch/" ⟨"B", some 2⟩).path = .segments path ∧
          LeadsTo ["base".toList, []] " /\\%ü?".toList ["etl".toList, "watch".toList] path ∧
          u.text = "wss://[::1]:8443/base/databases/%20%2F%5C%25%C3%BC%3F/etl/watch" ++
            "?x=1&nodeTag=B&shardNumber=2&k=v" := by
  intro c
  have hpasses : c.validate.toOption = some () := by decide +kernel
  have hvalid : c.validate = .ok () := ok_of_toOption hpasses
  have hread : (Url.parse c.serverUrl).toOption.map Url.path =
      some (.segments ["base".toList, []]) := by decide +kernel
  have htext : ((LiveEndpoint.create c.serverUrl "/etl/watch/" (some " /\\%ü?")
      [("k", "v")]).toOption.bind fun e => (e.build ⟨"B", some 2⟩).toOption.map Url.text) =
        some ("wss://[::1]:8443/base/databases/%20%2F%5C%25%C3%BC%3F/etl/watch" ++
          "?x=1&nodeTag=B&shardNumber=2&k=v") := by decide +kernel
  have hnamed : Named " /\\%ü?" "/etl/watch/" := by decide +kernel
  obtain ⟨base, parts, hparse, hparts, hscoped⟩ := scoped_of_validate hvalid
  rw [hparse] at hread
  obtain rfl : parts = ["base".toList, []] :=
    UrlPath.segments.inj (hparts.symm.trans (Option.some.inj hread))
  obtain ⟨live, snapshots, u, path, hlive, hsnapshots, hu, hpath, haddress, hleads⟩ :=
    hscoped.path "/etl/watch/" " /\\%ü?" [("k", "v")] ⟨"B", some 2⟩
  refine ⟨hvalid, hscoped, hnamed, live, snapshots, u, path, hlive, hsnapshots, hu, hpath,
    haddress, hleads.2 ⟨by decide, hnamed⟩, ?_⟩
  rw [hlive] at htext
  simpa [Except.toOption, hu] using htext

/-- Databases that an address does not tell: a name with a tab is taken for another, a
dot for none, and below two slashes any name is asked for in another place. -/
theorem unsaid_database :
    let path (server database : String) := do
      let e ← (LiveEndpoint.create server "etl" (some database) []).toOption
      let u ← (e.build ⟨"A", none⟩).toOption
      return (u.text, u.path)
    let c := { Config.standard with serverUrl := "http://[::1]", nodes := [⟨"A", none⟩] }
    let d := { Config.standard with serverUrl := "http://[::1]//", nodes := [⟨"A", none⟩] }
    c.validate.toOption = some () ∧ d.validate.toOption = some () ∧
      path c.serverUrl "a\tb" = path c.serverUrl "ab" ∧
      path c.serverUrl "a\tb" = some ("ws://[::1]/databases/ab/etl?nodeTag=A",
        .segments ["databases".toList, "ab".toList, "etl".toList]) ∧
      ¬ LeadsTo [[]] "a\tb".toList ["etl".toList]
        ["databases".toList, "ab".toList, "etl".toList] ∧
      path c.serverUrl "." = some ("ws://[::1]/databases/etl?nodeTag=A",
        .segments ["databases".toList, "etl".toList]) ∧
      path d.serverUrl "Orders" = some ("ws://[::1]/databases/Orders/etl?nodeTag=A",
        .segments ["databases".toList, "Orders".toList, "etl".toList]) ∧
      ¬ LeadsTo [[], []] "Orders".toList ["etl".toList]
        ["databases".toList, "Orders".toList, "etl".toList] := by
  intro path c d
  refine ⟨by decide +kernel, by decide +kernel, by decide +kernel, by decide +kernel,
    fun hleads => ?_, by decide +kernel, by decide +kernel, fun hleads => ?_⟩
  · obtain ⟨-, hnamed⟩ := (leadsTo_databasePath [[]] "a\tb" "etl").1 hleads
    exact absurd hnamed (by decide)
  · exact ((leadsTo_databasePath [[], []] "Orders" "etl").1 hleads).1 rfl

end Endpoint

end Telemetry
