import Telemetry.Proofs.Aggregate.Live
import Telemetry.Proofs.Endpoint
import Telemetry.Proofs.Url.Form
import Telemetry.Session.Basic
/-!
# Endpoints — locations in queries

A source is told from another by the query of its address alone: scheme, host and
path are those of the endpoint. Read as a form, the query says what the server's
own address asks for, then the location, then the parameters of the endpoint
(`pairs_build`), each exactly as it was given. So a server can tell the location
from the address (`eq_of_text_build`), and it is always told the same one: the
sources of a session share one endpoint, and whatever was dialed before, each dials
its own address (`Identifying.dialed`).
-/

namespace Telemetry

namespace Url

variable {u v : Url}

/-- Segments change nothing but the path. -/
theorem eq_of_extendPath {texts : List (List Char)} (h : u.extendPath texts = some v) :
    v = { u with path := v.path } := by
  unfold extendPath at h
  split at h
  · cases h
  · obtain rfl := Option.some.inj h
    rfl

/-- Of what is appended to one URL the text tells the pairs. -/
theorem eq_of_text_appendPairs {added added' : List (String × String)}
    (h : (u.appendPairs added).text = (u.appendPairs added').text) : added = added' := by
  have htext : ∀ added, (u.appendPairs added).text = String.ofList
      (u.scheme ++ ':' :: u.authorityText ++ pathText u.path ++
        '?' :: added.foldl appendPair (u.query.getD []) ++
        (u.fragment.map ('#' :: ·)).getD []) := fun _ => rfl
  rw [htext, htext, String.ofList_inj, List.append_cancel_right_eq, List.append_cancel_left_eq,
    List.cons_inj_right] at h
  have hpairs : (u.appendPairs added).pairs = (u.appendPairs added').pairs := congrArg formPairs h
  rwa [pairs_appendPairs, pairs_appendPairs, List.append_cancel_left_eq] at hpairs

end Url

namespace Location

theorem toString_injective : Function.Injective (toString : Nat → String) := by
  intro n n' h
  have hdigits : Nat.toDigits 10 n = Nat.toDigits 10 n' := by
    simpa [Nat.toString_eq_repr, Nat.toList_repr] using congrArg String.toList h
  rw [← Nat.ofDigitChars_ten_toDigits (n := n), hdigits, Nat.ofDigitChars_ten_toDigits]

/-- **Locations that ask for the same are the same.** -/
theorem queryPairs_injective : Function.Injective queryPairs := by
  rintro ⟨tag, shard⟩ ⟨tag', shard'⟩ h
  obtain ⟨htag, hshard⟩ := List.cons.inj h
  obtain rfl := (Prod.mk.inj htag).2
  cases shard with
  | none =>
    cases shard' with
    | none => rfl
    | some n' => cases hshard
  | some n =>
    cases shard' with
    | none => cases hshard
    | some n' =>
      have htext : ("shardNumber", toString n) = ("shardNumber", toString n') :=
        (List.cons.inj hshard).1
      rw [toString_injective (Prod.mk.inj htext).2]

end Location

namespace LiveEndpoint

variable {server endpoint : String} {database : Option String} {params : List (String × String)}
  {e : LiveEndpoint} {l l' : Location} {u u' : Url}

/-! ## Addresses -/

theorem exists_of_build (h : e.build l = .ok u) :
    ∃ v, e.base.extendPath (Endpoint.databaseSegments e.database ++ Text.splitAt '/' e.endpoint) =
      some v ∧ u = v.appendPairs (l.queryPairs ++ e.params) := by
  unfold build at h
  split at h
  · next v hv => exact ⟨v, hv, (Except.ok.inj h).symm⟩
  · cases h

/-- **The address of a location** asks for what the base asks for, then for the
location and the parameters. -/
theorem pairs_build (h : e.build l = .ok u) :
    u.pairs = e.base.pairs ++ (l.queryPairs ++ e.params) := by
  obtain ⟨v, hv, rfl⟩ := exists_of_build h
  have hbase : v.pairs = e.base.pairs := by
    rw [Url.eq_of_extendPath hv]
    rfl
  rw [Url.pairs_appendPairs, hbase]

/-- **An address is of one location.** -/
theorem eq_of_text_build (h : e.build l = .ok u) (h' : e.build l' = .ok u')
    (htext : u.text = u'.text) : l = l' := by
  obtain ⟨v, hv, rfl⟩ := exists_of_build h
  obtain ⟨v', hv', rfl⟩ := exists_of_build h'
  obtain rfl := Option.some.inj (hv.symm.trans hv')
  have hpairs := Url.eq_of_text_appendPairs htext
  exact Location.queryPairs_injective (List.append_cancel_right hpairs)

/-! ## Bases -/

/-- A scheme that can be switched stands for the same port as its socket scheme, and
neither is that of files. -/
theorem switchable {scheme socket : List Char} (h : Endpoint.socketScheme? scheme = some socket) :
    Url.isSpecialScheme scheme = true ∧ scheme ≠ "file".toList ∧
      Url.isSpecialScheme socket = true ∧ socket ≠ "file".toList ∧
      Url.defaultPort socket = Url.defaultPort scheme := by
  unfold Endpoint.socketScheme? at h
  simp only [Bool.or_eq_true, decide_eq_true_eq] at h
  split at h
  · next hplain =>
    obtain rfl := Option.some.inj h
    rcases hplain with rfl | rfl <;> decide
  · split at h
    · next hsecure =>
      obtain rfl := Option.some.inj h
      rcases hsecure with rfl | rfl <;> decide
    · cases h

/-- **What an endpoint is made of**: the server's address under its socket scheme. -/
theorem exists_base_of_create (h : create server endpoint database params = .ok e) :
    ∃ base socket, Url.parse server = .ok base ∧ Url.Regular base ∧
      e = ⟨{ base with scheme := socket }, Endpoint.trimSlashes endpoint.toList, database,
        params⟩ := by
  unfold create at h
  split at h
  · cases h
  · next base hparse =>
    split at h
    · cases h
    · next socket hsocket =>
      obtain ⟨hspecial, hfile, hspecial', hfile', hport⟩ := switchable hsocket
      have hregular := Url.regular_of_parse hparse hspecial hfile
      rw [Url.withScheme?_eq_some hregular hspecial' hfile' hport] at h
      exact ⟨base, socket, hparse, hregular, (Except.ok.inj h).symm⟩

/-- It has an address for every location. -/
theorem exists_build_of_create (h : create server endpoint database params = .ok e)
    (l : Location) : ∃ u, e.build l = .ok u := by
  obtain ⟨base, socket, -, hregular, rfl⟩ := exists_base_of_create h
  obtain ⟨parts, hparts⟩ := hregular.path
  exact ⟨_, by simp only [build, Url.extendPath, hparts]; rfl⟩

/-! ## Sources -/

open Aggregate in
/-- **Each source of a session dials its own address.** -/
theorem build_of_mem_dialed {ι τ ρ ω : Type} {c : Config} {f : Feed ι τ ρ ω}
    {nodes : List Location} {es : List (Nat × Live.Event ι)} {now : Nat} {event : Live.Event ι}
    (h : u ∈ ((Chronicle.of (Session.setting c f e) nodes es).live.step
      (Session.setting c f e) now event).dialed) :
    ∃ link x k l, event = .stimulus link x ∧
      (Chronicle.of (Session.setting c f e) nodes es).live.links[link]? = some k ∧
      nodes[k.source]? = some l ∧ e.build l = .ok u := by
  obtain ⟨link, x, k, p, n, hevent, hlink, hplan, haddress⟩ :=
    Live.exists_address_of_mem_dialed h
  obtain ⟨s, hs, rfl⟩ := Option.map_eq_some_iff.1 hplan
  refine ⟨link, x, k, s.location, hevent, hlink, ?_, haddress⟩
  have hlocations := Chronicle.locations_of (Session.setting c f e) nodes es
  have hlocation := congrArg (·[k.source]?) hlocations
  rw [List.getElem?_map, hs, Option.map_some] at hlocation
  exact hlocation.symm

open Aggregate in
/-- **An endpoint whose addresses identify locations.** -/
structure Identifying (base : Url) (params : List (String × String)) (e : LiveEndpoint) :
    Prop where
  /-- Every location has an address: it asks for what the server's address asks for,
  for the node, for its shard, if there is one, and for the parameters, in this
  order. -/
  pairs : ∀ l, ∃ u, e.build l = .ok u ∧ u.pairs = base.pairs ++
    ("nodeTag", l.nodeTag) ::
      ((l.shardNumber.map fun n => ("shardNumber", toString n)).toList ++ params)
  /-- No two locations share an address. -/
  apart : ∀ l l' u u', e.build l = .ok u → e.build l' = .ok u' → l ≠ l' → u.text ≠ u'.text
  /-- Whatever the sources that share the endpoint have dialed, and whatever happens
  next, an address that is dialed is that of the source whose connection dials it. -/
  dialed : ∀ {ι τ ρ ω : Type} (c : Config) (f : Feed ι τ ρ ω) nodes es now event u,
    u ∈ ((Chronicle.of (Session.setting c f e) nodes es).live.step
      (Session.setting c f e) now event).dialed →
    ∃ link x k l, event = .stimulus link x ∧
      (Chronicle.of (Session.setting c f e) nodes es).live.links[link]? = some k ∧
      nodes[k.source]? = some l ∧ e.build l = .ok u

/-- **The addresses of an endpoint identify locations**, whatever server, path,
database and parameters it is made of. -/
theorem identifying_of_create (h : create server endpoint database params = .ok e) :
    ∃ base, Url.parse server = .ok base ∧ Identifying base params e := by
  obtain ⟨base, socket, hparse, -, he⟩ := exists_base_of_create h
  refine ⟨base, hparse, fun l => ?_, fun l l' u u' hu hu' hne htext => ?_,
    fun _ _ _ _ _ _ _ hu => ?_⟩
  · obtain ⟨u, hu⟩ := exists_build_of_create h l
    refine ⟨u, hu, ?_⟩
    rw [pairs_build hu, he]
    rfl
  · exact hne (eq_of_text_build hu hu' htext)
  · exact build_of_mem_dialed hu

/-- A server with a port, a query of its own and a fragment, a tag that has to be
encoded, and a parameter that comes twice. -/
theorem identifying_of_create_crowded :
    let server := "https://[::1]:8443/base?x=1&&y#top"
    let params := [("k", "v w"), ("k", "")]
    ∃ e base u, create server "/live/" (some "a/ü") params = .ok e ∧
      Url.parse server = .ok base ∧ Identifying base params e ∧
      base.pairs = [("x", "1"), ("y", "")] ∧ e.build ⟨"B&=+% ü", some 2⟩ = .ok u ∧
      u.text = "wss://[::1]:8443/base/databases/a%2F%C3%BC/live?x=1&&y" ++
        "&nodeTag=B%26%3D%2B%25+%C3%BC&shardNumber=2&k=v+w&k=#top" ∧
      u.pairs = [("x", "1"), ("y", ""), ("nodeTag", "B&=+% ü"), ("shardNumber", "2"),
        ("k", "v w"), ("k", "")] := by
  intro server params
  have hserver : (Url.parse server).toOption.map Url.pairs = some [("x", "1"), ("y", "")] := by
    decide +kernel
  have htext : ((create server "/live/" (some "a/ü") params).toOption.bind
      fun e => (e.build ⟨"B&=+% ü", some 2⟩).toOption.map Url.text) =
        some ("wss://[::1]:8443/base/databases/a%2F%C3%BC/live?x=1&&y" ++
          "&nodeTag=B%26%3D%2B%25+%C3%BC&shardNumber=2&k=v+w&k=#top") := by decide +kernel
  obtain ⟨e, he, hbuild⟩ := Option.bind_eq_some_iff.1 htext
  have hcreate : create server "/live/" (some "a/ü") params = .ok e := ok_of_toOption he
  obtain ⟨u, hu, htext⟩ := Option.map_eq_some_iff.1 hbuild
  obtain ⟨base, hparse, hidentifying⟩ := identifying_of_create hcreate
  rw [hparse] at hserver
  have hbase : base.pairs = [("x", "1"), ("y", "")] := Option.some.inj hserver
  obtain ⟨u', hu', hpairs⟩ := hidentifying.pairs ⟨"B&=+% ü", some 2⟩
  obtain rfl : u' = u := Except.ok.inj (hu'.symm.trans (ok_of_toOption hu))
  exact ⟨e, base, u', hcreate, hparse, hidentifying, hbase, hu', htext, by rw [hpairs, hbase]; rfl⟩

end LiveEndpoint

end Telemetry
