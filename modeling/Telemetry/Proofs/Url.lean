import Telemetry.Proofs.Failure
import Telemetry.Url.Parser
/-!
# Url — under another scheme

A URL that was read under a special scheme, other than that of files, names a
host; its path is a list of segments, and it gives no port that its scheme
stands for (`regular_of_parse`). So it may go under any other such scheme that
stands for the same port, and nothing else of it changes (`withScheme?_eq_some`).
Nor does it matter to what is appended whether that is done before or after
(`extendPath_scheme`).
-/

namespace Telemetry

namespace Url

variable {u : Url} {scheme cs : List Char} {s : String}

/-! ## Hosts and ports -/

theorem readAddress4_ne_plain {text : List Char} : readAddress4 cs ≠ .ok (.plain text) := by
  unfold readAddress4
  split
  · split <;> nofun
  · nofun

theorem readAddress6_ne_plain {text : List Char} : readAddress6 cs ≠ .ok (.plain text) := by
  unfold readAddress6
  dsimp only
  split <;> nofun

/-- **A host of a special scheme has a meaning.** -/
theorem ofText_ne_plain {text : List Char} : Host.ofText cs ≠ .ok (.plain text) := by
  unfold Host.ofText
  split
  · split
    · exact readAddress6_ne_plain
    · nofun
  · rw [ne_eq, bind_eq_ok_iff]
    rintro ⟨domain, -, h⟩
    split at h
    · cases h
    · split at h
      · exact readAddress4_ne_plain h
      · cases h

/-- The port that a scheme stands for is left out. -/
theorem readPort_ne_default {n : Nat} (h : readPort scheme cs = .ok (some n)) :
    defaultPort scheme ≠ some n := by
  unfold readPort at h
  dsimp only at h
  split at h
  · split at h
    · cases h
    · split at h
      · cases h
      · next hkept =>
        cases h
        intro hdefault
        simp [hdefault] at hkept
  · cases h

/-! ## Special URLs -/

/-- **What there is to a URL with a special scheme** that is not one of files. -/
structure Regular (u : Url) : Prop where
  special : u.isSpecial = true
  host : u.namesHost = true
  path : ∃ parts, u.path = .segments parts
  port : ∀ n, u.port = some n → defaultPort u.scheme ≠ some n

/-- Reading an authority keeps to the scheme. -/
theorem scheme_readAuthority (h : readAuthority scheme cs = .ok u) : u.scheme = scheme := by
  unfold readAuthority at h
  simp only [bind_eq_ok_iff] at h
  obtain ⟨-, -, -, -, host, -, -, -, port, -, -, -, h⟩ := h
  cases h
  rfl

theorem regular_readAuthority (hspecial : isSpecialScheme scheme = true)
    (h : readAuthority scheme cs = .ok u) : Regular u := by
  unfold readAuthority at h
  simp only [hspecial, bind_eq_ok_iff] at h
  obtain ⟨-, -, -, -, host, hhost, -, -, port, hport, -, -, h⟩ := h
  cases h
  refine ⟨hspecial, ?_, ⟨_, rfl⟩, fun n hn => ?_⟩
  · cases host with
    | plain text => exact absurd hhost ofText_ne_plain
    | domain | address4 | address6 => rfl
  · obtain rfl : port = some n := hn
    exact readPort_ne_default hport

theorem scheme_readFile (h : readFile cs = .ok u) : u.scheme = "file".toList := by
  unfold readFile at h
  dsimp only at h
  split at h
  · split at h
    · split at h
      · cases h
        rfl
      · rw [bind_eq_ok_iff] at h
        obtain ⟨host, -, h⟩ := h
        cases h
        rfl
    · cases h
      rfl
  · cases h
    rfl

theorem scheme_readOther (h : readOther scheme cs = .ok u) : u.scheme = scheme := by
  unfold readOther at h
  split at h
  · exact scheme_readAuthority h
  · cases h
    rfl

/-- **A special URL that is read**, other than one of files. -/
theorem regular_of_parse (h : parse s = .ok u) (hspecial : isSpecialScheme u.scheme = true)
    (hfile : u.scheme ≠ "file".toList) : Regular u := by
  unfold parse at h
  split at h
  · cases h
  · next scheme rest hsplit =>
    -- the two other readers yield other schemes
    split at h
    · exact absurd (scheme_readFile h) hfile
    · split at h
      · next hs => exact regular_readAuthority hs h
      · next hs => exact absurd (scheme_readOther h ▸ hspecial) hs

/-! ## Another scheme -/

/-- **Under a scheme that stands for the same port** only the scheme changes. -/
theorem withScheme?_eq_some (h : Regular u) (hspecial : isSpecialScheme scheme = true)
    (hfile : scheme ≠ "file".toList) (hport : defaultPort scheme = defaultPort u.scheme) :
    u.withScheme? scheme = some { u with scheme := scheme } := by
  -- the port it gives is not the one that the new scheme stands for
  have hkept : u.port.filter (fun n => defaultPort scheme != some n) = u.port := by
    cases hgiven : u.port with
    | none => rfl
    | some n => exact Option.filter_some_pos (bne_iff_ne.2 (hport ▸ h.port n hgiven))
  have hallowed : (isSpecialScheme scheme != u.isSpecial ||
      scheme == "file".toList && u.host.isSome || isSpecialScheme scheme && !u.namesHost) =
        false := by
    rw [hspecial, h.special, h.host, beq_false_of_ne hfile]
    rfl
  rw [withScheme?, hallowed, hkept]
  rfl

/-- Schemes of the same kind, as far as paths go. -/
def SameKind (scheme scheme' : List Char) : Prop :=
  isSpecialScheme scheme = isSpecialScheme scheme' ∧
    (scheme == "file".toList) = (scheme' == "file".toList)

/-- Segments are appended alike under schemes of the same kind. -/
theorem extendPath_scheme (h : SameKind scheme u.scheme) (texts : List (List Char)) :
    ({ u with scheme := scheme } : Url).extendPath texts =
      (u.extendPath texts).map fun v => { v with scheme := scheme } := by
  unfold extendPath isSpecial
  rw [h.1, h.2]
  cases u.path <;> rfl

/-- Only segments can be appended to. -/
theorem isSome_extendPath (h : ∃ parts, u.path = .segments parts) (texts : List (List Char)) :
    ∃ v, u.extendPath texts = some v ∧ v.scheme = u.scheme := by
  obtain ⟨parts, hparts⟩ := h
  unfold extendPath
  rw [hparts]
  exact ⟨_, rfl, rfl⟩

/-- The scheme stands at the front of the text, and nowhere else. -/
theorem exists_text_eq (u : Url) : ∃ rest, ∀ scheme,
    ({ u with scheme := scheme } : Url).text = String.ofList (scheme ++ ':' :: rest) := by
  refine ⟨u.authorityText ++ (pathText u.path ++ ((u.query.map ('?' :: ·)).getD [] ++
    (u.fragment.map ('#' :: ·)).getD [])), fun scheme => congrArg String.ofList ?_⟩
  simp only [List.append_assoc, List.cons_append]
  rfl

end Url

end Telemetry
