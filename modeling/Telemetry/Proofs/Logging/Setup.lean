import Telemetry.Logging.Setup
import Telemetry.Proofs.Logging.Rotation
/-!
# Logging — setting up that fails

A filter that cannot be read is found before anything is done. That logging is set up
already is found last, when the folder of the log files has been prepared: old files
are gone and a new one has begun (`contained_setUp`). So of the files of earlier calls
those with the greatest names are left, as after every rotation (`Prepared.pruned`).

Old files are looked for where the new one is begun, unless the path of the folder is
empty: then they are looked for at the root (`lookout`).
-/

namespace Telemetry

namespace Logging

open Text

variable {o : Options} {dir : String} {now : WallTime} {p : Process} {f made : Folder}
  {home file : FilePath}

/-! ## The folder of the log files -/

/-- What is removed when old files are, by a process that works in a folder. -/
def pruning (o : Options) (dir : String) (cwd : FilePath) (made : Folder) :
    Folder × List FilePath :=
  rotate made (Folder.origin cwd (dir ++ "/")) (splitString '/' dir) o.appName o.keepFiles

/-- **Where old files are looked for** if the new one is begun in a folder. -/
def lookout (dir : String) (home : FilePath) : FilePath := if dir = "" then [] else home

/-- A slash behind a path tells nothing about where it begins, if there is a path. -/
theorem origin_slash (cwd : FilePath) (h : dir ≠ "") :
    Folder.origin cwd (dir ++ "/") = Folder.origin cwd dir := by
  have hne : dir.toList ≠ [] := fun hnil => h (String.toList_eq_nil_iff.1 hnil)
  rw [Folder.origin, Folder.origin, String.toList_append, List.head?_append_of_ne_nil _ hne]

/-- The file of a run has one name, with no slash in it. -/
theorem slash_notMem_fileName (h : Glob.Plain o.appName) :
    '/' ∉ (fileName o.appName now).toList := by
  have hpadded : ∀ width n, '/' ∉ Time.Instant.padded width n := fun width n hmem =>
    absurd (Time.Stamp.isDigit_of_mem_padded width n '/' hmem) (by decide)
  have happ : '/' ∉ o.appName.toList := fun hmem => absurd (h '/' hmem) (by decide)
  rw [toList_fileName, WallTime.stamp, Time.Instant.yearText]
  split_ifs <;> simp [happ, hpadded]

/-! ## What a setup has done -/

/-- The folder that a process works in is there, and so is all around it. -/
def Process.Placed (p : Process) : Prop := ∀ q, q <+: p.cwd → p.folder.isFolder q = true

/-- **The folder of the log files has been prepared for a run**, and nothing else has
been done: what a process is before and after that. -/
structure Prepared (o : Options) (dir : String) (now : WallTime) (made : Folder)
    (home file : FilePath) (p p' : Process) : Prop where
  installed : p'.installed = p.installed
  environment : p'.environment = p.environment
  cwd : p'.cwd = p.cwd
  /-- The files that are gone are those removed by the rotation; one file may be new. -/
  mem_files : ∀ q, q ∈ p'.folder.files ↔
    q ∈ p.folder.files ∧ q ∉ (pruning o dir p.cwd made).2 ∨ q = file
  folders : ∀ q ∈ p.folder.folders, q ∈ p'.folder.folders
  /-- It is in the folder, if it is named without slashes. -/
  named : Glob.Plain o.appName → file = home ++ [fileName o.appName now]
  isFolder : p.Placed → p'.folder.isFolder home = true
  /-- A path of plain names leads to where old files are looked for. -/
  place : p.Placed → Glob.Plain o.appName →
    (∀ s ∈ splitString '/' dir, Glob.Plain s) →
    LogPlace made (Folder.origin p.cwd (dir ++ "/")) (splitString '/' dir) (lookout dir home)
      o.appName
  /-- Of the log files there, those with the greatest names are left, and of all other
  files every one. -/
  pruned : ∀ there, LogFolder made (Folder.origin p.cwd (dir ++ "/")) (splitString '/' dir) there
      o.appName →
    ∃ greatest others, Greatest p.folder there o.appName o.keepFiles greatest others ∧
      (∀ n ∈ greatest ++ others, there ++ [n] ∈ p'.folder.files ↔
        n ∈ greatest ∨ there ++ [n] = file) ∧
      ∀ q ∈ p.folder.files, (∀ n, IsLogOf o.appName n → q ≠ there ++ [n]) → q ∈ p'.folder.files

/-- **What a setup that fails has done.** -/
structure Contained (o : Options) (now : WallTime) (p : Process) : Prop where
  /-- Nothing, if the filter cannot be read, -/
  unread : ∀ level, (setUp o now p).2 = .error (.filter level) → (setUp o now p).1 = p
  /-- or if lines are only printed. -/
  printed : o.dir = none → (setUp o now p).2 = .error .again → (setUp o now p).1 = p
  /-- If they go to a folder, that has been prepared when it shows that logging is set
  up already. -/
  prepared : ∀ dir, o.dir = some dir → (setUp o now p).2 = .error .again →
    ∃ made home file, p.folder.makePath (splitString '/' dir) (Folder.origin p.cwd dir) =
        some (made, home) ∧
      Prepared o dir now made home file p (setUp o now p).1

/-- **Where a file is begun**: behind the rotation, in a folder that is made for it. A
folder or a file that cannot be made is all that can go wrong. -/
theorem beginFile_cases (o : Options) (dir : String) (now : WallTime) (cwd : FilePath)
    (f : Folder) :
    (∃ left e, beginFile o dir now cwd f = (left, .error e) ∧ (e = .folder ∨ e = .file)) ∨
      ∃ made home ready place file,
        f.makePath (splitString '/' dir) (Folder.origin cwd dir) = some (made, home) ∧
        (pruning o dir cwd made).1.makePath (splitString '/' (fileName o.appName now)).dropLast
          (Folder.origin home (fileName o.appName now)) = some (ready, place) ∧
        file = place ++ [lastName (splitString '/' (fileName o.appName now))] ∧
        ready.isFolder file = false ∧
        beginFile o dir now cwd f = (ready.putFile file, .ok file) := by
  cases hmade : f.makePath (splitString '/' dir) (Folder.origin cwd dir) with
  | none => exact .inl ⟨f, .folder, by simp only [beginFile, hmade], .inl rfl⟩
  | some r =>
    obtain ⟨made, home⟩ := r
    cases hready : (pruning o dir cwd made).1.makePath
        (splitString '/' (fileName o.appName now)).dropLast
        (Folder.origin home (fileName o.appName now)) with
    | none =>
      refine .inl ⟨(pruning o dir cwd made).1, .file, ?_, .inr rfl⟩
      rw [pruning] at hready ⊢
      simp only [beginFile, hmade, hready]
    | some r =>
      obtain ⟨ready, place⟩ := r
      have hpruned := hready
      rw [pruning] at hpruned
      let file := place ++ [lastName (splitString '/' (fileName o.appName now))]
      cases hfree : ready.isFolder file with
      | true =>
        refine .inl ⟨ready, .file, ?_, .inr rfl⟩
        simp only [beginFile, hmade, hpruned]
        exact if_pos hfree
      | false =>
        refine .inr ⟨made, home, ready, place, file, rfl, hready, rfl, hfree, ?_⟩
        simp only [beginFile, hmade, hpruned]
        exact if_neg (by rw [hfree]; exact Bool.false_ne_true)

/-- A name without slashes is a name in the folder. -/
theorem named_of_makePath (happ : Glob.Plain o.appName) {ready : Folder} {place : FilePath}
    (hready : f.makePath (splitString '/' (fileName o.appName now)).dropLast
      (Folder.origin home (fileName o.appName now)) = some (ready, place)) :
    place ++ [lastName (splitString '/' (fileName o.appName now))] =
      home ++ [fileName o.appName now] := by
  have hslash : '/' ∉ (fileName o.appName now).toList := slash_notMem_fileName happ
  have horigin : Folder.origin home (fileName o.appName now) = home :=
    if_neg fun hhead => hslash (List.mem_of_mem_head? hhead)
  rw [splitString, splitAt_of_notMem hslash, List.map_singleton, String.ofList_toList,
    horigin] at hready
  rw [splitString, splitAt_of_notMem hslash, List.map_singleton, String.ofList_toList]
  obtain ⟨-, rfl⟩ := Prod.mk.inj (Option.some.inj hready)
  rfl

/-- The folder that is made is where its path leads: where the process works all folders
are there, and so they are at the root. -/
theorem walk?_home (hcwd : p.Placed)
    (hmade : p.folder.makePath (splitString '/' dir) (Folder.origin p.cwd dir) =
      some (made, home)) :
    made.walk? (splitString '/' dir) (Folder.origin p.cwd dir) = some home ∧
      made.isFolder home = true := by
  refine Folder.walk?_of_makePath (fun q hq => ?_) hmade
  unfold Folder.origin at hq
  split at hq
  · rw [List.prefix_nil.1 hq]
    rfl
  · exact hcwd q hq

/-- Old files are looked for in that folder, or at the root. -/
theorem logPlace_lookout (hcwd : p.Placed) (happ : Glob.Plain o.appName)
    (hdir : ∀ s ∈ splitString '/' dir, Glob.Plain s)
    (hmade : p.folder.makePath (splitString '/' dir) (Folder.origin p.cwd dir) =
      some (made, home)) :
    LogPlace made (Folder.origin p.cwd (dir ++ "/")) (splitString '/' dir) (lookout dir home)
      o.appName := by
  obtain ⟨hwalk, hhome⟩ := walk?_home hcwd hmade
  unfold lookout
  split_ifs with hempty
  · subst hempty
    exact ⟨happ, hdir, rfl, rfl⟩
  · exact ⟨happ, hdir, (origin_slash p.cwd hempty).symm ▸ hwalk, hhome⟩

/-- What is left where old files were looked for, when they are gone and a new one may
have been begun. -/
theorem exists_greatest {cwd there : FilePath} {left : Folder}
    (hmade : made.files = f.files)
    (hleft : ∀ q, q ∈ left.files ↔ q ∈ f.files ∧ q ∉ (pruning o dir cwd made).2 ∨ q = file)
    (hlogs : LogFolder made (Folder.origin cwd (dir ++ "/")) (splitString '/' dir) there
      o.appName) :
    ∃ greatest others, Greatest f there o.appName o.keepFiles greatest others ∧
      (∀ n ∈ greatest ++ others, there ++ [n] ∈ left.files ↔
        n ∈ greatest ∨ there ++ [n] = file) ∧
      ∀ q ∈ f.files, (∀ n, IsLogOf o.appName n → q ≠ there ++ [n]) → q ∈ left.files := by
  have hgreatest := hlogs.greatest o.keepFiles
  refine ⟨_, _, ⟨fun n => ?_, hgreatest.descending, hgreatest.length⟩, fun n hn => ?_,
    fun q hq hother => ?_⟩
  · rw [← hmade]
    exact hgreatest.mem_iff n
  · rw [List.take_append_drop] at hn
    rw [hleft, ← hlogs.mem_files_rotate o.keepFiles hn, files_rotate, List.mem_filter,
      decide_eq_true_iff, hmade]
    rfl
  · refine (hleft q).2 (.inl ⟨hq, fun hgone => ?_⟩)
    rw [pruning, hlogs.removed_rotate] at hgone
    obtain ⟨n, hn, rfl⟩ := List.mem_map.1 hgone
    exact hother n (hlogs.mem_logNames.1 (List.mem_of_mem_drop hn)).1 rfl

/-- **What a file that is begun leaves of a process.** -/
theorem prepared_putFile {ready : Folder} {place : FilePath}
    (hmade : p.folder.makePath (splitString '/' dir) (Folder.origin p.cwd dir) = some (made, home))
    (hready : (pruning o dir p.cwd made).1.makePath
      (splitString '/' (fileName o.appName now)).dropLast
      (Folder.origin home (fileName o.appName now)) = some (ready, place))
    (hfile : file = place ++ [lastName (splitString '/' (fileName o.appName now))])
    (hfree : ready.isFolder file = false) :
    Prepared o dir now made home file p { p with folder := ready.putFile file } := by
  obtain ⟨hmadefiles, hmadefolders⟩ := Folder.kept_of_makePath hmade
  obtain ⟨hreadyfiles, hreadyfolders⟩ := Folder.kept_of_makePath hready
  have hmem : ∀ q, q ∈ (ready.putFile file).files ↔
      q ∈ p.folder.files ∧ q ∉ (pruning o dir p.cwd made).2 ∨ q = file := fun q => by
    rw [Folder.mem_files_putFile hfree, hreadyfiles, pruning, files_rotate, List.mem_filter,
      decide_eq_true_iff, hmadefiles]
  have hstays : ∀ q ∈ made.folders, q ∈ (ready.putFile file).folders := fun q hq => by
    rw [Folder.folders_putFile]
    exact hreadyfolders q (by rwa [pruning, folders_rotate])
  refine
    { installed := rfl
      environment := rfl
      cwd := rfl
      mem_files := hmem
      folders := fun q hq => hstays q (hmadefolders q hq)
      named := fun happ => hfile.trans (named_of_makePath happ hready)
      isFolder := fun hcwd => ?_
      place := fun hcwd happ hdir => logPlace_lookout hcwd happ hdir hmade
      pruned := fun there => exists_greatest hmadefiles hmem }
  have hhome := (walk?_home hcwd hmade).2
  rw [Folder.isFolder, Bool.or_eq_true, List.contains_iff_mem] at hhome ⊢
  exact hhome.imp_right (hstays home)

theorem eq_filter_of_chooseFilter {environment : Option String} {e : SetupError}
    (h : chooseFilter o environment = .error e) : e = .filter o.level := by
  unfold chooseFilter at h
  split at h
  · cases h
  · split at h
    · cases h
    · exact (Except.error.inj h).symm

/-- **Where a setup stops**: at the filter, at the folder or the file, or in the end, with
the file begun if there is to be one. -/
theorem setUp_cases {e : SetupError} (h : (setUp o now p).2 = .error e) :
    (e = .filter o.level ∨ e = .again ∧ o.dir = none) ∧ (setUp o now p).1 = p ∨
      (e = .folder ∨ e = .file) ∨
      e = .again ∧ ∃ dir made home file, o.dir = some dir ∧
        p.folder.makePath (splitString '/' dir) (Folder.origin p.cwd dir) = some (made, home) ∧
        Prepared o dir now made home file p (setUp o now p).1 := by
  cases hfilter : chooseFilter o p.environment with
  | error e' =>
    have hset : setUp o now p = (p, .error e') := by simp only [setUp, hfilter]
    rw [hset] at h ⊢
    obtain rfl := Except.error.inj h
    exact .inl ⟨.inl (eq_filter_of_chooseFilter hfilter), rfl⟩
  | ok filter =>
    cases hdir : o.dir with
    | none =>
      cases hinstalled : p.installed with
      | none => simp [setUp, hfilter, hdir, hinstalled] at h
      | some _ =>
        have hset : setUp o now p = (p, .error .again) := by
          simp only [setUp, hfilter, hdir, hinstalled]
        rw [hset] at h ⊢
        obtain rfl := Except.error.inj h
        exact .inl ⟨.inr ⟨rfl, rfl⟩, rfl⟩
    | some dir =>
      obtain ⟨left, e', hbegun, he⟩ |
        ⟨made, home, ready, place, file, hmade, hready, hfile, hfree, hbegun⟩ :=
          beginFile_cases o dir now p.cwd p.folder
      · have hset : (setUp o now p).2 = .error e' := by simp only [setUp, hfilter, hdir, hbegun]
        obtain rfl := Except.error.inj (hset.symm.trans h)
        exact .inr (.inl he)
      · rcases Option.eq_none_or_eq_some p.installed with hinstalled | ⟨_, hinstalled⟩
        · simp [setUp, hfilter, hdir, hbegun, hinstalled] at h
        · have hset : setUp o now p = ({ p with folder := ready.putFile file }, .error .again) := by
            simp only [setUp, hfilter, hdir, hbegun, hinstalled]
          rw [hset] at h ⊢
          obtain rfl := Except.error.inj h
          exact .inr (.inr ⟨rfl, dir, made, home, file, rfl, hmade,
            prepared_putFile hmade hready hfile hfree⟩)

end Logging

end Telemetry
