import Telemetry.Proofs.Logging.Rotation
/-!
# Logging — rotation among the logs of several programs

What a rotation removes is a matter of the names that count as logs of the program
(`LogPlace.removed_congr`). The logs of another program are left alone, and make no
difference, unless its name looks like the program's own: it goes on from it with a
hyphen, as `live-tail` does from `live`. Those that look like its own are counted and
removed with the others (`discerns_rotate`).
-/

namespace Telemetry

namespace Logging

variable {f g : Folder} {start home : FilePath} {dir : List String} {app : String}

/-- **What is removed is a matter of the logs alone**: where the same files count as
logs of a program and the folders are the same, a rotation removes the same files. -/
theorem LogPlace.removed_congr (h : LogPlace f start dir home app) (hfolders : g.folders = f.folders)
    (hlogs : ∀ n, IsLogOf app n → (home ++ [n] ∈ g.files ↔ home ++ [n] ∈ f.files)) (keep : Nat) :
    (rotate g start dir app keep).2 = (rotate f start dir app keep).2 := by
  have hplace : LogPlace g start dir home app :=
    { plain_app := h.plain_app
      plain_dir := h.plain_dir
      leads := (f.walk?_congr hfolders dir start).trans h.leads
      isFolder := by rw [Folder.isFolder, hfolders]; exact h.isFolder }
  have hnames : logNames g home app = logNames f home app := by
    refine logNames_eq (pairwise_logNames f home app) fun n => ?_
    rw [mem_logNames, mem_logNames, hfolders]
    exact and_congr_right fun hlog => or_congr_left (hlogs n hlog)
  rw [hplace.removed_rotate, h.removed_rotate, hnames]
  refine congrArg (List.map (home ++ [·])) (List.filter_congr fun n hn => ?_)
  have hlog : IsLogOf app n := (mem_logNames.1 (List.mem_of_mem_drop hn)).1
  rw [Bool.eq_iff_iff, List.contains_iff_mem, List.contains_iff_mem]
  exact hlogs n hlog

/-- **Which of another program's logs a rotation takes for logs of the program**: those
that look like them. -/
structure Discerns (f : Folder) (start : FilePath) (dir : List String) (home : FilePath)
    (app other : String) : Prop where
  /-- They are the ones that are counted; -/
  counted_iff : ∀ t, home ++ [fileName other t] ∈ f.files →
    (home ++ [fileName other t] ∈ logFiles f start dir app ↔ LooksLike app other t)
  /-- no other is ever removed, -/
  spared : ∀ keep t, ¬ LooksLike app other t →
    home ++ [fileName other t] ∉ (rotate f start dir app keep).2
  /-- and they all are if none is to be kept. -/
  removed : ∀ t, home ++ [fileName other t] ∈ f.files → LooksLike app other t →
    home ++ [fileName other t] ∈ (rotate f start dir app 0).2
  /-- The others make no difference: with them gone, the same files are removed. -/
  uncounted : ∀ (keep : Nat) (runs : List WallTime), (∀ t ∈ runs, ¬ LooksLike app other t) →
    (rotate ((runs.map fun t => home ++ [fileName other t]).foldl Folder.removeFile f)
      start dir app keep).2 = (rotate f start dir app keep).2

/-- **A rotation tells logs apart by the names of the programs alone.** It counts and
removes another program's logs exactly if they look like the program's own. -/
theorem discerns_rotate (h : LogPlace f start dir home app) (other : String) :
    Discerns f start dir home app other where
  counted_iff t hfile := by
    have hmem : home ++ [fileName other t] ∈ logFiles f start dir app ↔
        fileName other t ∈ logNames f home app := by simp [h.logFiles_eq]
    rw [hmem, mem_logNames, isLogOf_fileName_iff]
    exact and_iff_left (.inl hfile)
  spared keep t hlooks hmem := by
    rw [h.removed_rotate] at hmem
    obtain ⟨n, hn, hname⟩ := List.mem_map.1 hmem
    obtain rfl : n = fileName other t := by simpa using hname
    have hlog := mem_logNames.1 (List.mem_of_mem_drop (List.mem_of_mem_filter hn))
    exact hlooks (isLogOf_fileName_iff.1 hlog.1)
  removed t hfile hlooks := by
    rw [h.removed_rotate]
    refine List.mem_map_of_mem (List.mem_filter.2 ⟨?_, List.contains_iff_mem.2 hfile⟩)
    exact mem_logNames.2 ⟨isLogOf_fileName_iff.2 hlooks, .inl hfile⟩
  uncounted keep runs hruns := by
    refine h.removed_congr (f.folders_removeFiles _) (fun n hlog => ?_) keep
    rw [Folder.files_removeFiles, List.mem_filter, decide_eq_true_iff]
    refine and_iff_left fun hgone => ?_
    obtain ⟨t, ht, hname⟩ := List.mem_map.1 hgone
    obtain rfl : fileName other t = n := by simpa using hname
    exact hruns t ht (isLogOf_fileName_iff.1 hlog)

/-- The logs of `tail` are left alone where those of `live` are rotated. -/
theorem discerns_rotate_spared :
    let f : Folder := ⟨[["logs", "live-20240101_000000.log"], ["logs", "tail-20230101_000000.log"]],
      [["logs"]]⟩
    LogPlace f [] ["logs"] ["logs"] "live" ∧ Discerns f [] ["logs"] ["logs"] "live" "tail" ∧
      ∀ keep, ["logs", "tail-20230101_000000.log"] ∉ (rotate f [] ["logs"] "live" keep).2 := by
  intro f
  have hplace : LogPlace f [] ["logs"] ["logs"] "live" :=
    ⟨by decide, by decide, by decide, by decide⟩
  have hdiscerns := discerns_rotate hplace "tail"
  refine ⟨hplace, hdiscerns, fun keep => ?_⟩
  have hlooks : ¬ LooksLike "live" "tail" ⟨⟨2023, 1, 1⟩, 0, 0, 0⟩ := by decide
  have hname : fileName "tail" ⟨⟨2023, 1, 1⟩, 0, 0, 0⟩ = "tail-20230101_000000.log" := by
    decide +kernel
  rw [← hname]
  exact hdiscerns.spared keep _ hlooks

/-- Those of `live-tail` are not. If `live` keeps none of its logs, the log of
`live-tail` is removed; if it keeps one, it keeps that log and removes its own. -/
theorem lost_to_live :
    let theirs := ["live-tail-20230101_000000.log"]
    let own := ["live-20240301_000000.log"]
    [fileName "live-tail" ⟨⟨2023, 1, 1⟩, 0, 0, 0⟩] = theirs ∧
      (rotate ⟨[theirs], []⟩ [] [] "live" 0).2 = [theirs] ∧
      (rotate ⟨[own, theirs], []⟩ [] [] "live" 1).2 = [own] := by
  intro theirs own
  refine ⟨by decide +kernel, by decide +kernel, ?_⟩
  have hlogs : LogFolder ⟨[own, theirs], []⟩ [] [] [] "live" :=
    ⟨⟨by decide, by decide, by decide, by decide⟩, fun n _ hmem => by simp at hmem⟩
  have hnames : logNames ⟨[own, theirs], []⟩ [] "live" =
      ["live-tail-20230101_000000.log", "live-20240301_000000.log"] := by
    refine logNames_eq (by decide) fun n => ?_
    have hmem : n ∈ ["live-tail-20230101_000000.log", "live-20240301_000000.log"] →
        Glob.fits (Glob.literals ("live" ++ "-").toList ++
          .sequence :: Glob.literals ".log".toList) n.toList = true := by
      revert n
      decide +kernel
    rw [hlogs.mem_logNames, ← fits_iff_isLogOf]
    constructor
    · rintro ⟨-, hfile⟩
      simpa [own, theirs, or_comm] using hfile
    · intro hn
      exact ⟨hmem hn, by simpa [own, theirs, or_comm] using hn⟩
  rw [hlogs.removed_rotate, hnames]
  rfl

end Logging

end Telemetry
