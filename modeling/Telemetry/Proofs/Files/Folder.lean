import Mathlib.Data.List.Nodup
import Mathlib.Data.String.Basic
import Telemetry.Files.Folder
/-!
# Files — what is in a folder

The names in a folder are those of its files and folders, each once and in
ascending order (`mem_names`, `pairwise_names`). A path is followed name by name
from folder to folder (`walk?`); one whose folders have been made can be followed
(`walk?_of_makePath`). Making and removing change what they name, and nothing else
(`files_removeFiles`, `mem_folders_of_makeFolder`, `mem_files_putFile`).
-/

namespace Telemetry

namespace Folder

variable (f : Folder)

/-! ## Names -/

theorem nodup_eraseDups (names : List String) : names.eraseDups.Nodup := by
  induction hlength : names.length using Nat.strongRecOn generalizing names with
  | _ n ih =>
    cases names with
    | nil => exact .nil
    | cons name rest =>
      have hfewer := List.length_filter_le (fun m => !m == name) rest
      have hothers := ih _ (by rw [← hlength, List.length_cons]; omega)
        (rest.filter fun m => !m == name) rfl
      rw [List.eraseDups_cons, List.nodup_cons]
      exact ⟨by simp [List.mem_eraseDups], hothers⟩

theorem pairwise_mergeSort_names (names : List String) :
    (names.mergeSort fun a b => decide (a ≤ b)).Pairwise (· ≤ ·) := by
  refine (List.pairwise_mergeSort (fun a b c hab hbc => ?_) (fun a b => ?_) names).imp
    of_decide_eq_true
  · rw [decide_eq_true_iff] at *
    exact le_trans hab hbc
  · rw [Bool.or_eq_true, decide_eq_true_iff, decide_eq_true_iff]
    exact le_total a b

/-- What is right inside a folder is a name after its path. -/
theorem inside_iff {p q : FilePath} :
    (q.length == p.length + 1 && q.take p.length == p) = true ↔ ∃ n, q = p ++ [n] := by
  rw [Bool.and_eq_true, beq_iff_eq, beq_iff_eq]
  constructor
  · rintro ⟨hlength, htake⟩
    obtain ⟨n, hn⟩ := List.length_eq_one_iff.1
      (by rw [List.length_drop]; omega : (q.drop p.length).length = 1)
    exact ⟨n, by rw [← List.take_append_drop p.length q, htake, hn]⟩
  · rintro ⟨n, rfl⟩
    simp

/-- **The names in a folder** are those of its files and folders, -/
theorem mem_names {p : FilePath} {n : String} :
    n ∈ f.names p ↔ p ++ [n] ∈ f.files ∨ p ++ [n] ∈ f.folders := by
  unfold names
  dsimp only
  rw [List.mem_mergeSort, List.mem_eraseDups, List.mem_filterMap]
  constructor
  · rintro ⟨q, hq, hlast⟩
    obtain ⟨hmem, hinside⟩ := List.mem_filter.1 hq
    obtain ⟨m, rfl⟩ := inside_iff.1 hinside
    obtain rfl : m = n := by simpa using hlast
    exact List.mem_append.1 hmem
  · intro h
    exact ⟨p ++ [n], List.mem_filter.2 ⟨List.mem_append.2 h, inside_iff.2 ⟨n, rfl⟩⟩, by simp⟩

/-- each once and in ascending order. -/
theorem pairwise_names (p : FilePath) : (f.names p).Pairwise (· < ·) := by
  unfold names
  dsimp only
  refine (pairwise_mergeSort_names _).and
    ((List.mergeSort_perm _ _).nodup_iff.2 (nodup_eraseDups _)) |>.imp ?_
  exact fun h => lt_of_le_of_ne h.1 h.2

/-! ## Paths -/

/-- **Where a path of folders leads**, from a folder on: `.` stays, `..` goes back,
and everything else has to be a folder there. -/
def walk? : List String → FilePath → Option FilePath
  | [], p => some p
  | s :: rest, p =>
    if s.isEmpty || s = "." then walk? rest p
    else if s = ".." then walk? rest p.dropLast
    else if f.isFolder (p ++ [s]) then walk? rest (p ++ [s])
    else none

/-- Where a path leads is a matter of folders alone. -/
theorem walk?_congr {g : Folder} (h : g.folders = f.folders) (dir : List String) (p : FilePath) :
    g.walk? dir p = f.walk? dir p := by
  induction dir generalizing p with
  | nil => rfl
  | cons s rest ih =>
    have hfolder : g.isFolder (p ++ [s]) = f.isFolder (p ++ [s]) := by
      rw [isFolder, isFolder, h]
    rw [walk?, walk?, hfolder, ih, ih, ih]

/-! ## Files that are removed -/

/-- What is left after some files are removed, -/
theorem files_removeFiles (ps : List FilePath) :
    (ps.foldl removeFile f).files = f.files.filter fun q => decide (q ∉ ps) := by
  induction ps generalizing f with
  | nil => simp
  | cons p rest ih =>
    rw [List.foldl_cons, ih, removeFile, List.filter_filter]
    refine List.filter_congr fun q _ => ?_
    simp [Bool.and_comm]

/-- and the folders stay. -/
theorem folders_removeFiles (ps : List FilePath) :
    (ps.foldl removeFile f).folders = f.folders := by
  induction ps generalizing f with
  | nil => rfl
  | cons p rest ih => exact ih _

/-! ## Folders that are made -/

variable {f} {g : Folder} {p q home : FilePath}

theorem mem_stages_iff : q ∈ stages p ↔ q ≠ [] ∧ q <+: p := by
  rw [stages, List.mem_map]
  constructor
  · rintro ⟨n, hn, rfl⟩
    rw [List.mem_range] at hn
    refine ⟨fun hnil => ?_, List.take_prefix _ _⟩
    have hlength := congrArg List.length hnil
    rw [List.length_take, List.length_nil] at hlength
    omega
  · rintro ⟨hne, hprefix⟩
    have hlength := List.length_pos_iff.2 hne
    refine ⟨q.length - 1, List.mem_range.2 (by have := hprefix.length_le; omega), ?_⟩
    rw [Nat.sub_add_cancel hlength]
    exact (List.prefix_iff_eq_take.1 hprefix).symm

/-- **A folder that is made** comes with those on the way to it, -/
theorem mem_folders_of_makeFolder (h : f.makeFolder p = some g) :
    q ∈ g.folders ↔ q ∈ f.folders ∨ q ≠ [] ∧ q <+: p := by
  unfold makeFolder at h
  split at h
  · cases h
  · obtain rfl := Option.some.inj h
    rw [← mem_stages_iff, List.mem_append, List.mem_filter]
    by_cases hq : q ∈ f.folders <;> simp [hq]

/-- and no file is touched. -/
theorem files_of_makeFolder (h : f.makeFolder p = some g) : g.files = f.files := by
  unfold makeFolder at h
  split at h
  · cases h
  · obtain rfl := Option.some.inj h
    rfl

theorem isFolder_of_makeFolder (h : f.makeFolder p = some g) (hq : q <+: p) :
    g.isFolder q = true := by
  rw [isFolder, Bool.or_eq_true, List.isEmpty_iff, List.contains_iff_mem]
  by_cases hnil : q = []
  · exact .inl hnil
  · exact .inr ((mem_folders_of_makeFolder h).2 (.inr ⟨hnil, hq⟩))

/-- Making a path touches no file, and no folder is gone. -/
theorem kept_of_makePath {dir : List String} (h : f.makePath dir p = some (g, home)) :
    g.files = f.files ∧ ∀ r ∈ f.folders, r ∈ g.folders := by
  induction dir generalizing f p with
  | nil =>
    obtain ⟨rfl, -⟩ := Prod.mk.inj (Option.some.inj h)
    exact ⟨rfl, fun r hr => hr⟩
  | cons s rest ih =>
    rw [makePath] at h
    split at h
    · exact ih h
    split at h
    · exact ih h
    cases hmade : f.makeFolder (p ++ [s]) with
    | none => simp [hmade] at h
    | some made =>
      rw [hmade] at h
      obtain ⟨hfiles, hfolders⟩ := ih h
      exact ⟨hfiles.trans (files_of_makeFolder hmade),
        fun r hr => hfolders r ((mem_folders_of_makeFolder hmade).2 (.inl hr))⟩

/-- **A path that is made** can be followed, and leads where the folders were made. -/
theorem walk?_of_makePath {dir : List String} (hp : ∀ q, q <+: p → f.isFolder q = true)
    (h : f.makePath dir p = some (g, home)) :
    g.walk? dir p = some home ∧ g.isFolder home = true := by
  -- all on the way so far are folders, so `..` leads back to one
  induction dir generalizing f p with
  | nil =>
    obtain ⟨rfl, rfl⟩ := Prod.mk.inj (Option.some.inj h)
    exact ⟨rfl, hp p List.prefix_rfl⟩
  | cons s rest ih =>
    rw [makePath] at h
    rw [walk?]
    by_cases hstay : s.isEmpty || s = "."
    · rw [if_pos hstay] at h ⊢
      exact ih hp h
    rw [if_neg hstay] at h ⊢
    by_cases hback : s = ".."
    · rw [if_pos hback] at h ⊢
      exact ih (fun q hq => hp q (hq.trans p.dropLast_prefix)) h
    rw [if_neg hback] at h ⊢
    cases hmade : f.makeFolder (p ++ [s]) with
    | none => simp [hmade] at h
    | some made =>
      rw [hmade] at h
      obtain ⟨hwalk, hhome⟩ := ih (fun q => isFolder_of_makeFolder hmade) h
      have hthere : p ++ [s] ∈ g.folders := (kept_of_makePath h).2 _
        ((mem_folders_of_makeFolder hmade).2 (.inr ⟨by simp, List.prefix_rfl⟩))
      have hfolder : g.isFolder (p ++ [s]) = true := by
        rw [isFolder, List.contains_iff_mem.2 hthere, Bool.or_true]
      rw [if_pos hfolder]
      exact ⟨hwalk, hhome⟩

/-- **A file that is put** where no folder stands is there, and no other one is new, -/
theorem mem_files_putFile (h : f.isFolder p = false) :
    q ∈ (f.putFile p).files ↔ q ∈ f.files ∨ q = p := by
  rw [putFile, exists?, h, Bool.false_or]
  split_ifs with hfile
  · refine (or_iff_left_of_imp ?_).symm
    rintro rfl
    exact List.contains_iff_mem.1 hfile
  · rw [List.mem_append, List.mem_singleton]

/-- and no folder comes or goes. -/
@[simp] theorem folders_putFile (f : Folder) (p : FilePath) :
    (f.putFile p).folders = f.folders := by
  rw [putFile]
  split_ifs <;> rfl

end Folder

end Telemetry
