import Mathlib.Data.List.Induction
import Telemetry.Proofs.Merge
/-!
# Merging — items that leave no trace

A merge may pass over some of what comes. It `Sifts` if one that passes over
nothing comes to the same when that has been taken out of every batch before:
the same tree, and the same word about each batch. What is passed over is
reported or not, and that is said item by item.

Both are questions about single items (`Ingestion.agrees_each_filter`,
`Ingestion.skipped_each`): a batch comes to the same if its items do.
-/

namespace Telemetry

namespace Ingestion

variable {ι κ τ ω σ : Type}

/-- **Two ingestions come to the same**: one tree, and one word about it. -/
def Agrees (i j : Ingestion τ ω) : Prop := i.tree = j.tree ∧ i.changed = j.changed

theorem Agrees.map {i j : Ingestion τ ω} (h : i.Agrees j) (f : τ → σ) :
    (i.map f).Agrees (j.map f) :=
  ⟨congrArg f h.1, h.2⟩

/-- What comes after the same comes to the same if it does so by itself. -/
theorem Agrees.followed {i j : Ingestion τ ω} (h : i.Agrees j) (k l : τ → Ingestion τ ω)
    (hnext : (k j.tree).Agrees (l j.tree)) :
    (⟨(k i.tree).tree, i.changed || (k i.tree).changed, i.skipped ++ (k i.tree).skipped⟩ :
      Ingestion τ ω).Agrees
    ⟨(l j.tree).tree, j.changed || (l j.tree).changed, j.skipped ++ (l j.tree).skipped⟩ := by
  obtain ⟨htree, hchanged⟩ := h
  obtain ⟨hrest, hword⟩ := hnext
  rw [htree, hchanged]
  exact ⟨hrest, congrArg (j.changed || ·) hword⟩

/-- Items come to the same as others if each of them does. -/
theorem agrees_each_map {f : τ → ι → Ingestion τ ω} {g : τ → κ → Ingestion τ ω} {h : ι → κ}
    (hitem : ∀ t a, (f t a).Agrees (g t (h a))) (t : τ) (items : List ι) :
    (each f t items).Agrees (each g t (items.map h)) := by
  induction items generalizing t with
  | nil => exact ⟨rfl, rfl⟩
  | cons a rest ih => exact (hitem t a).followed (each f · rest) (each g · (rest.map h)) (ih _)

/-- **Items that change nothing can be left out**: what is left comes to the
same. -/
theorem agrees_each_filter {f g : τ → ι → Ingestion τ ω} {p : ι → Bool}
    (hdrop : ∀ t a, p a = false → (f t a).Agrees (unchanged t))
    (hkeep : ∀ t a, p a = true → (f t a).Agrees (g t a)) (t : τ) (items : List ι) :
    (each f t items).Agrees (each g t (items.filter p)) := by
  induction items generalizing t with
  | nil => exact ⟨rfl, rfl⟩
  | cons a rest ih =>
    cases hp : p a with
    | false =>
      rw [List.filter_cons_of_neg (by simp [hp])]
      exact (hdrop t a hp).followed (each f · rest) (each g · (rest.filter p)) (ih t)
    | true =>
      rw [List.filter_cons_of_pos hp]
      exact (hkeep t a hp).followed (each f · rest) (each g · (rest.filter p)) (ih _)

/-- **What is reported of some items** is what is reported of each, in their
order, if what they find is kept by all of them. -/
theorem skipped_each {P : τ → Prop} {f : τ → ι → Ingestion τ ω} {report : ι → List ω}
    (hstep : ∀ t a, P t → (f t a).skipped = report a ∧ P (f t a).tree) {t : τ} (ht : P t)
    (items : List ι) : (each f t items).skipped = items.flatMap report := by
  induction items generalizing t with
  | nil => rfl
  | cons a rest ih =>
    obtain ⟨hskipped, hkept⟩ := hstep t a ht
    change (f t a).skipped ++ (each f (f t a).tree rest).skipped = _
    rw [hskipped, ih hkept, List.flatMap_cons]

end Ingestion

namespace Merge

variable {ι τ ω : Type}

/-- **A merge sifts** what comes, given what is left of a batch and what is
reported of its items. -/
structure Sifts (m plain : Merge ι τ ω) (sift : List ι → List ι) (report : ι → List ω)
    (batches : List (List ι)) : Prop where
  /-- The tree is the one a merge that passes over nothing makes of what is
  left. -/
  tree : m.replay m.initial batches = plain.replay plain.initial (batches.map sift)
  /-- The next batch is said to change the tree if what is left of it is. -/
  changed : ∀ batch, (m.ingest (m.replay m.initial batches) batch).changed =
    (plain.ingest (plain.replay plain.initial (batches.map sift)) (sift batch)).changed
  /-- What is reported of the next batch is what is reported of its items, in
  their order, and nothing is reported of what is left of it. -/
  skipped : ∀ batch, (m.ingest (m.replay m.initial batches) batch).skipped = batch.flatMap report ∧
    (plain.ingest (plain.replay plain.initial (batches.map sift)) (sift batch)).skipped = []

/-- **A merge sifts if it does so batch by batch**, whatever tree they find. -/
theorem Sifts.of_agrees {m plain : Merge ι τ ω} {sift : List ι → List ι} {report : ι → List ω}
    (hinitial : m.initial = plain.initial)
    (hbatch : ∀ t batch, (m.ingest t batch).Agrees (plain.ingest t (sift batch)))
    {batches : List (List ι)}
    (hskipped : ∀ batch,
      (m.ingest (m.replay m.initial batches) batch).skipped = batch.flatMap report ∧
      (plain.ingest (plain.replay plain.initial (batches.map sift)) (sift batch)).skipped = []) :
    m.Sifts plain sift report batches := by
  have htree : m.replay m.initial batches = plain.replay plain.initial (batches.map sift) := by
    clear hskipped
    induction batches using List.reverseRecOn with
    | nil => exact hinitial
    | append_singleton batches batch ih =>
      rw [List.map_append, replay_append, replay_append, ih]
      exact (hbatch _ batch).1
  refine ⟨htree, fun batch => ?_, hskipped⟩
  rw [htree]
  exact (hbatch _ batch).2

end Merge

end Telemetry
