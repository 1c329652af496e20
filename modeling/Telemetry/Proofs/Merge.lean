import Mathlib.Data.List.Basic
import Telemetry.Merge
/-!
# Merging — batches as folds

A merge that takes in items one by one is a fold over the items, whatever
batches they come in (`replay_eq_foldl`). A merge whose word can be taken
for it that nothing has changed is `Candid`; if the items can be taken at
their word one by one, so can their batches (`Ingestion.tree_each_of_unchanged`).

That a merge says a tree has changed is another matter: it speaks of what it has
put into the tree on the way, and one item of a batch may undo what another has
done. What can be relied on is `Tells`, and it is shown by saying which items
are news to a tree (`Candid.tells`).
-/

namespace Telemetry

theorem Time.Instant.past_eq_all (t : Time.Instant) (cutoff : Option Time.Instant) :
    t.past cutoff = cutoff.all (fun c => decide (c < t)) := by
  cases cutoff <;> rfl

namespace Ingestion

variable {ι τ ω : Type}

/-- Taking in items is a fold, as far as the tree goes. -/
theorem tree_each (f : τ → ι → Ingestion τ ω) (t : τ) (items : List ι) :
    (each f t items).tree = items.foldl (fun t a => (f t a).tree) t := by
  induction items generalizing t with
  | nil => rfl
  | cons a rest ih => exact ih _

/-- What taking in each item keeps, taking in all of them keeps. -/
theorem each_induction {P : τ → Prop} {f : τ → ι → Ingestion τ ω} {items : List ι} {t : τ}
    (ht : P t) (step : ∀ t, ∀ a ∈ items, P t → P (f t a).tree) : P (each f t items).tree := by
  rw [tree_each]
  exact List.foldlRecOn items _ ht fun t h a ha => step t a ha h

/-- Items that say so whenever they change a tree, say so together. -/
theorem tree_each_of_unchanged {f : τ → ι → Ingestion τ ω}
    (hf : ∀ t a, (f t a).changed = false → (f t a).tree = t) {t : τ} {items : List ι}
    (h : (each f t items).changed = false) : (each f t items).tree = t := by
  induction items generalizing t with
  | nil => rfl
  | cons a rest ih =>
    obtain ⟨hfirst, hrest⟩ := Bool.or_eq_false_iff.1 h
    exact (ih hrest).trans (hf t a hfirst)

/-- And they say so exactly if one of them does, coming first: as long as no
item changes the tree, the next one finds the tree there was. -/
theorem changed_each {f : τ → ι → Ingestion τ ω}
    (hf : ∀ t a, (f t a).changed = false → (f t a).tree = t) (t : τ) (items : List ι) :
    (each f t items).changed = items.any fun a => (f t a).changed := by
  induction items with
  | nil => rfl
  | cons a rest ih =>
    change ((f t a).changed || (each f (f t a).tree rest).changed) = _
    rw [List.any_cons]
    cases hfirst : (f t a).changed with
    | true => rfl
    | false => rw [hf t a hfirst, ih]

end Ingestion

namespace Merge

variable {ι τ ω : Type}

theorem replay_append (m : Merge ι τ ω) (t : τ) (xs ys : List (List ι)) :
    m.replay t (xs ++ ys) = m.replay (m.replay t xs) ys :=
  List.foldl_append

/-- **How items are cut into batches does not matter** to a merge that
takes them in one by one. -/
theorem replay_eq_foldl {m : Merge ι τ ω} {f : τ → ι → Ingestion τ ω}
    (hm : m.ingest = Ingestion.each f) (t : τ) (batches : List (List ι)) :
    m.replay t batches = batches.flatten.foldl (fun t a => (f t a).tree) t := by
  have hnext : m.next = fun t batch => batch.foldl (fun t a => (f t a).tree) t := by
    funext t batch
    rw [next, hm, Ingestion.tree_each]
  rw [replay, hnext, List.foldl_flatten]

/-- **A candid merge** says so whenever it changes a tree. -/
def Candid (m : Merge ι τ ω) : Prop :=
  ∀ t batch, (m.ingest t batch).changed = false → m.next t batch = t

variable {σ : Type}

/-- **What a merge tells of a tree** when batches come into it, given how a
tree is read and which batches do not contradict themselves. -/
structure Tells (m : Merge ι τ ω) (read : τ → σ) (Consistent : List ι → Prop) (t : τ) : Prop where
  /-- A batch that is not said to change the tree leaves the very same one. -/
  silent : ∀ batch, (m.ingest t batch).changed = false → m.next t batch = t
  /-- A batch is said to change the tree if the tree reads otherwise after it,
  or if the batch contradicts itself. -/
  exact : ∀ batch, (m.ingest t batch).changed = true ↔
    read (m.next t batch) ≠ read t ∨ ¬ Consistent batch

/-- **What a merge tells is what it knows of news.** Let it say that a batch
changes the tree if some item in it is news. If nothing in a consistent batch
is news once the batch has been merged, what was news before tells the tree
before it from the tree after. -/
theorem Candid.tells {m : Merge ι τ ω} (hm : m.Candid) {isNews : τ → ι → Bool} {read : τ → σ}
    {Consistent : List ι → Prop} {t : τ}
    (hnews : ∀ batch, (m.ingest t batch).changed = batch.any (isNews t))
    (hread : ∀ t', read t' = read t → isNews t' = isNews t)
    (hsettled : ∀ batch, Consistent batch → ∀ a ∈ batch, isNews (m.next t batch) a = false)
    (hclash : ∀ batch, (∀ a ∈ batch, isNews t a = false) → Consistent batch) :
    m.Tells read Consistent t := by
  refine ⟨hm t, fun batch => ⟨fun hchanged => ?_, fun hdiffers => ?_⟩⟩
  · by_contra hnone
    obtain ⟨hsame, hbatch⟩ := not_or.1 hnone
    rw [hnews, List.any_eq_true] at hchanged
    obtain ⟨a, ha, hbefore⟩ := hchanged
    -- what was news before the batch would be news to a tree that reads the same
    have hafter : isNews (m.next t batch) a = false := hsettled batch (not_not.1 hbatch) a ha
    rw [hread _ (not_not.1 hsame), hbefore] at hafter
    cases hafter
  · by_contra hsilent
    have hunchanged : (m.ingest t batch).changed = false := Bool.eq_false_iff.2 hsilent
    rcases hdiffers with hother | hcontra
    · exact hother (congrArg read (hm t batch hunchanged))
    · refine hcontra (hclash batch fun a ha => ?_)
      rw [hnews, List.any_eq_false] at hunchanged
      exact Bool.eq_false_iff.2 (hunchanged a ha)

end Merge

end Telemetry
