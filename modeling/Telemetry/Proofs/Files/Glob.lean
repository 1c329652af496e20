import Telemetry.Files.Glob
import Telemetry.Proofs.Files.Folder
/-!
# Files — what a pattern finds

In a pattern a plain text stands for itself, so a path of plain names in front of a
pattern leads to one folder at most, and what is found are the names of that folder
that fit (`find_star`). A star between two plain texts asks for a name that begins
with the one and ends with the other, which do not overlap (`fits_star_iff`).
-/

namespace Telemetry

namespace Glob

/-! ## Plain texts -/

/-- A character that stands for itself in a pattern and parts no names. -/
def isPlain (c : Char) : Bool := !(['/', '?', '*', '[', ']'].contains c)

/-- **A text without slashes and without characters that stand for others.** -/
def Plain (s : String) : Prop := ∀ c ∈ s.toList, isPlain c = true

instance (s : String) : Decidable (Plain s) :=
  decidable_of_iff (s.toList.all isPlain = true) List.all_eq_true

theorem Plain.append {s t : String} (hs : Plain s) (ht : Plain t) : Plain (s ++ t) := by
  intro c hc
  rw [String.toList_append, List.mem_append] at hc
  exact hc.elim (hs c) (ht c)

/-- The tokens of a text that stands for itself. -/
def literals (cs : List Char) : List Token := cs.map Token.char

theorem tokens_cons {c : Char} (fuel : Nat) (rest : List Char) (hany : c ≠ '?') (hstar : c ≠ '*')
    (hbracket : c ≠ '[') :
    tokens (fuel + 1) (c :: rest) = (tokens fuel rest).map (.char c :: ·) := by
  rw [tokens] <;> simp [hany, hstar, hbracket]

/-- **A plain text is read as its characters.** -/
theorem tokens_append {cs : List Char} (h : ∀ c ∈ cs, isPlain c = true) (fuel : Nat)
    (rest : List Char) :
    tokens (cs.length + fuel) (cs ++ rest) = (tokens fuel rest).map (literals cs ++ ·) := by
  induction cs with
  | nil => simp [literals]
  | cons c cs ih =>
    have hplain := h c List.mem_cons_self
    have hany : c ≠ '?' := fun hc => absurd (hc ▸ hplain) (by decide)
    have hstar : c ≠ '*' := fun hc => absurd (hc ▸ hplain) (by decide)
    have hbracket : c ≠ '[' := fun hc => absurd (hc ▸ hplain) (by decide)
    have hfuel : (c :: cs).length + fuel = cs.length + fuel + 1 := by
      rw [List.length_cons]
      omega
    rw [hfuel, List.cons_append, tokens_cons _ _ hany hstar hbracket,
      ih fun d hd => h d (List.mem_cons_of_mem c hd), Option.map_map]
    rfl

/-- So a component that is plain stands for itself, -/
theorem ofText_plain {s : String} (h : Plain s) :
    Component.ofText s = some (.name (literals s.toList)) := by
  have hne : s ≠ "**" := fun hs => absurd (hs ▸ h) (by decide)
  have htokens := tokens_append h 0 []
  rw [List.append_nil, Nat.add_zero, String.length_toList] at htokens
  rw [Component.ofText, if_neg hne, htokens]
  simp [tokens]

/-- and a star between plain texts for any characters between them. -/
theorem ofText_star {pre post : String} (hpre : Plain pre) (hpost : Plain post) :
    Component.ofText (pre ++ "*" ++ post) =
      some (.name (literals pre.toList ++ .sequence :: literals post.toList)) := by
  have hlist : (pre ++ "*" ++ post).toList = pre.toList ++ '*' :: post.toList := by simp
  have hhead : post.toList.head? ≠ some '*' := fun hstar =>
    absurd (hpost '*' (List.mem_of_mem_head? hstar)) (by decide)
  have hne : pre ++ "*" ++ post ≠ "**" := by
    intro heq
    have hstars : pre.toList ++ '*' :: post.toList = ['*', '*'] := by
      rw [← hlist, heq]
      rfl
    cases hcs : pre.toList with
    | nil =>
      rw [hcs] at hstars
      exact hhead (by rw [(List.cons.inj hstars).2]; rfl)
    | cons c cs =>
      rw [hcs] at hstars
      have hc : c = '*' := (List.cons.inj hstars).1
      exact absurd (hpre '*' (by rw [hcs, hc]; exact List.mem_cons_self)) (by decide)
  have hlength : (pre ++ "*" ++ post).length = pre.toList.length + (post.toList.length + 1) := by
    rw [← String.length_toList, hlist, List.length_append, List.length_cons]
  have hafter := tokens_append hpost 0 []
  rw [List.append_nil, Nat.add_zero] at hafter
  rw [Component.ofText, if_neg hne, hlength, hlist, tokens_append hpre, tokens, if_neg hhead,
    hafter]
  simp [tokens]

/-! ## Names that fit -/

theorem fits_char_nil (c : Char) (ts : List Token) : fits (.char c :: ts) [] = false := by
  simp [fits]

theorem fits_char_cons (c d : Char) (ts : List Token) (name : List Char) :
    fits (.char c :: ts) (d :: name) = (d == c && fits ts name) := by
  simp [fits, Token.fits]

/-- Characters that stand for themselves come first. -/
theorem fits_append (cs : List Char) (ts : List Token) (name : List Char) :
    fits (literals cs ++ ts) name = true ↔ ∃ rest, name = cs ++ rest ∧ fits ts rest = true := by
  induction cs generalizing name with
  | nil => simp [literals]
  | cons c cs ih =>
    have hcons : literals (c :: cs) ++ ts = .char c :: (literals cs ++ ts) := rfl
    rw [hcons]
    cases name with
    | nil =>
      rw [fits_char_nil]
      simp
    | cons d name =>
      rw [fits_char_cons, Bool.and_eq_true, beq_iff_eq, ih]
      constructor
      · rintro ⟨rfl, rest, rfl, hrest⟩
        exact ⟨rest, rfl, hrest⟩
      · rintro ⟨rest, heq, hrest⟩
        obtain ⟨rfl, rfl⟩ := List.cons.inj heq
        exact ⟨rfl, rest, rfl, hrest⟩

/-- A star stands for any characters. -/
theorem fits_sequence (ts : List Token) (name : List Char) :
    fits (.sequence :: ts) name = true ↔
      ∃ middle rest, name = middle ++ rest ∧ fits ts rest = true := by
  induction name with
  | nil =>
    rw [fits]
    constructor
    · exact fun h => ⟨[], [], rfl, h⟩
    · rintro ⟨middle, rest, heq, hrest⟩
      obtain ⟨rfl, rfl⟩ := List.append_eq_nil_iff.1 heq.symm
      exact hrest
  | cons c name ih =>
    rw [fits, Bool.or_eq_true, ih]
    constructor
    · rintro (h | ⟨middle, rest, rfl, hrest⟩)
      · exact ⟨[], _, rfl, h⟩
      · exact ⟨c :: middle, rest, rfl, hrest⟩
    · rintro ⟨middle, rest, heq, hrest⟩
      cases middle with
      | nil => exact .inl (by rw [heq]; exact hrest)
      | cons d middle => exact .inr ⟨middle, rest, (List.cons.inj heq).2, hrest⟩

/-- **A star between two texts** is fitted by what begins with the one and goes on to
end with the other. -/
theorem fits_star_iff (pre post name : List Char) :
    fits (literals pre ++ .sequence :: literals post) name = true ↔
      ∃ middle, name = pre ++ middle ++ post := by
  have hpost : ∀ rest, fits (literals post) rest = true ↔ rest = post := fun rest => by
    have hend := fits_append post [] rest
    rw [List.append_nil] at hend
    rw [hend]
    constructor
    · rintro ⟨none, rfl, hnone⟩
      rw [fits, List.isEmpty_iff] at hnone
      rw [hnone, List.append_nil]
    · rintro rfl
      exact ⟨[], (List.append_nil _).symm, by rw [fits]; rfl⟩
  rw [fits_append]
  constructor
  · rintro ⟨rest, rfl, hrest⟩
    obtain ⟨middle, rest, rfl, hfits⟩ := (fits_sequence _ _).1 hrest
    exact ⟨middle, by rw [(hpost rest).1 hfits, List.append_assoc]⟩
  · rintro ⟨middle, rfl⟩
    exact ⟨middle ++ post, List.append_assoc _ _ _,
      (fits_sequence _ _).2 ⟨middle, post, rfl, (hpost post).2 rfl⟩⟩

/-! ## Paths -/

/-- A plain component is the name that it spells, -/
theorem plainName?_literals (cs : List Char) :
    plainName? (literals cs) = some (String.ofList cs) := by
  refine congrArg (Option.map String.ofList) (?_ : _ = some cs)
  induction cs with
  | nil => rfl
  | cons c cs ih =>
    rw [literals, List.map_cons, List.mapM_cons, ← literals, ih]
    rfl

/-- and one with a star is none. -/
theorem plainName?_star (pre post : List Char) :
    plainName? (literals pre ++ .sequence :: literals post) = none := by
  refine congrArg (Option.map String.ofList) (?_ : _ = none)
  induction pre with
  | nil =>
    rw [literals, List.map_nil, List.nil_append, List.mapM_cons]
    rfl
  | cons c pre ih =>
    rw [literals, List.map_cons, List.cons_append, List.mapM_cons, ← literals, ih]
    rfl

variable (f : Folder) {dir : List String}

theorem paths_nil (fuel : Nat) (p : FilePath) : paths f (fuel + 1) [] p = [p] := by
  rw [paths]
  exact Nat.succ_ne_zero fuel

/-- **A path in front of a pattern** is followed to the folder it leads to. -/
theorem paths_append {p home : FilePath} (h : f.walk? dir p = some home) (fuel : Nat)
    (rest : List Component) :
    paths f (dir.length + fuel) (dir.map (fun s => .name (literals s.toList)) ++ rest) p =
      paths f fuel rest home := by
  induction dir generalizing p with
  | nil => simp [Option.some.inj h]
  | cons s dir ih =>
    have hfuel : (s :: dir).length + fuel = (dir.length + fuel).succ := by
      rw [List.length_cons]
      omega
    rw [hfuel, List.map_cons, List.cons_append, paths, plainName?_literals,
      String.ofList_toList]
    dsimp only
    unfold Folder.walk? at h
    split at h
    · next hstays => rw [if_pos hstays, ih h]
    · next hgoes =>
      rw [if_neg hgoes]
      split at h
      · next hback => rw [if_pos hback, ih h]
      · next hdown =>
        split at h
        · next hfolder =>
          have hthere : f.exists? (p ++ [s]) = true := by rw [Folder.exists?, hfolder, Bool.true_or]
          rw [if_neg hdown, if_pos hthere, ih h]
        · cases h

/-- Plain names are read as names. -/
theorem mapM_ofText (hdir : ∀ s ∈ dir, Plain s) (rest : List String) :
    (dir ++ rest).mapM Component.ofText =
      (rest.mapM Component.ofText).map (dir.map (fun s => .name (literals s.toList)) ++ ·) := by
  induction dir with
  | nil => simp
  | cons s dir ih =>
    rw [List.cons_append, List.mapM_cons, ofText_plain (hdir s List.mem_cons_self),
      ih fun t ht => hdir t (List.mem_cons_of_mem s ht)]
    cases rest.mapM Component.ofText <;> rfl

/-- Of components that do not stand for folders none is left out. -/
theorem foldr_names {components : List Component} (h : ∀ c ∈ components, c ≠ .folders) :
    components.foldr (fun c cs =>
      if c = .folders ∧ cs.head? = some .folders then cs else c :: cs) [] = components := by
  induction components with
  | nil => rfl
  | cons c rest ih =>
    rw [List.foldr_cons, ih fun d hd => h d (List.mem_cons_of_mem c hd),
      if_neg fun hc => h c List.mem_cons_self hc.1]

/-- **What is found with a star in a folder** are the names in it that fit. -/
theorem find_star (hdir : ∀ s ∈ dir, Plain s) {pre post : String} (hpre : Plain pre)
    (hpost : Plain post) {start home : FilePath} (hwalk : f.walk? dir start = some home)
    (hhome : f.isFolder home = true) :
    find f start (dir ++ [pre ++ "*" ++ post]) =
      ((f.names home).filter fun n => fits (literals pre.toList ++ .sequence ::
        literals post.toList) n.toList).map (home ++ [·]) := by
  have hread : (dir ++ [pre ++ "*" ++ post]).mapM Component.ofText =
      some (dir.map (fun s => .name (literals s.toList)) ++
        [.name (literals pre.toList ++ .sequence :: literals post.toList)]) := by
    rw [mapM_ofText hdir, List.mapM_cons, ofText_star hpre hpost]
    rfl
  have hnames : ∀ c ∈ dir.map (fun s => Component.name (literals s.toList)) ++
      [.name (literals pre.toList ++ .sequence :: literals post.toList)], c ≠ .folders := by
    intro c hc
    rcases List.mem_append.1 hc with hc | hc
    · obtain ⟨s, -, rfl⟩ := List.mem_map.1 hc
      exact nofun
    · rw [List.mem_singleton.1 hc]
      exact nofun
  have hfuel : 1 + ((f.files ++ f.folders).length + 1) = ((f.files ++ f.folders).length + 1).succ :=
    Nat.add_comm _ _
  rw [find, hread]
  dsimp only
  rw [foldr_names hnames, List.length_append, List.length_map, List.length_singleton,
    Nat.add_assoc, Nat.add_assoc, paths_append f hwalk, hfuel, paths, plainName?_star]
  dsimp only
  rw [if_pos hhome]
  simp only [paths_nil, List.map_eq_flatMap]

end Glob

end Telemetry
