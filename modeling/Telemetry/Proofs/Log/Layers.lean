import Mathlib.Data.List.Forall2
import Mathlib.Data.List.Induction
import Mathlib.Order.Bounds.Defs
import Telemetry.Proofs.Log.Judgement
/-!
# Log — the layers of a tail

A tail grows by one layer for each batch: records of its lines, in their order,
none of which is older than the newest record below (`Tail.exists_appended`). So
the layers are in order of time, and no record is older than one of a lower
layer; within a layer the times may be in any order (`Tail.layered_replay`). The
last record held need not be the newest, but whatever is newer came in the same
batch, before it (`Tail.InLayers.sent_before_last`).
-/

namespace Telemetry

namespace Log

variable {cutoff : Option Time.Instant} {tail : Tail} {history : List (List Entry)}

namespace Tail

/-! ## The newest time -/

/-- There is a newest time if anything is held. -/
theorem Dated.newest_eq_none_iff (h : tail.Dated) :
    tail.newest = none ↔ tail.records.toList = [] := by
  rw [List.eq_nil_iff_forall_not_mem, Option.eq_none_iff_forall_ne_some]
  constructor
  · intro hnone r hr
    obtain ⟨n, hn, -⟩ := h.bound r hr
    exact hnone n hn
  · intro hempty n hn
    obtain ⟨r, hr, -⟩ := h.attained n hn
    exact hempty r hr

/-- **The newest time** is the greatest of the times held. -/
theorem Dated.newest_eq_some_iff (h : tail.Dated) {n : Time.Instant} :
    tail.newest = some n ↔ IsGreatest {t | ∃ r ∈ tail.records.toList, r.time = t} n := by
  constructor
  · intro hn
    refine ⟨h.attained n hn, fun t ⟨r, hr, htime⟩ => ?_⟩
    obtain ⟨n', hn', hle⟩ := h.bound r hr
    obtain rfl := Option.some.inj (hn.symm.trans hn')
    exact htime ▸ hle
  · rintro ⟨⟨r, hr, rfl⟩, hgreatest⟩
    obtain ⟨n, hn, hle⟩ := h.bound r hr
    have hge : n ≤ r.time := hgreatest (h.attained n hn)
    rw [hn, le_antisymm hle hge]

/-! ## One more layer -/

/-- The lines that leave a record are some of the lines, in their order. -/
theorem map_entry_kept_sublist (cutoff : Option Time.Instant) (lines : List Entry) :
    ((kept cutoff lines).map Record.entry).Sublist lines := by
  induction lines with
  | nil => exact .slnil
  | cons e rest ih =>
    rw [kept_cons]
    cases hr : e.record? cutoff with
    | none => exact ih.cons e
    | some r =>
      rw [Option.toList_some, List.singleton_append, List.map_cons, (Entry.of_record? hr).1]
      exact ih.cons_cons e

/-- **A batch appends a layer**: records of its lines, in their order, that are
no older than the newest one there was. -/
theorem exists_appended (cutoff : Option Time.Instant) (tail : Tail) (batch : List Entry) :
    ∃ added, ((merge cutoff).next tail batch).records.toList = tail.records.toList ++ added ∧
      (added.map Record.entry).Sublist batch ∧
      ∀ r ∈ added, ∀ n, tail.newest = some n → n ≤ r.time := by
  obtain ⟨added, hrecords, hkept, hfresh⟩ := exists_added cutoff tail batch
  refine ⟨added, hrecords, (hkept.map _).trans (map_entry_kept_sublist cutoff batch), ?_⟩
  intro r hr n hn
  by_contra hlt
  have hrepeat : isRepeat tail.newest tail r = true :=
    isRepeat_iff.2 ⟨n, hn, .inl (not_le.1 hlt)⟩
  rw [hfresh r hr] at hrepeat
  cases hrepeat

/-! ## All layers -/

/-- **The layers of a tail** that some batches have left. -/
structure InLayers (history : List (List Entry)) (layers : List (List Record)) (tail : Tail) :
    Prop where
  /-- They are all that is held. -/
  held : layers.flatten = tail.records.toList
  /-- Each of them came in one batch, in the order of the batch. -/
  sent : List.Forall₂ (fun layer batch => (layer.map Record.entry).Sublist batch) layers history
  /-- No record is older than one of a lower layer. -/
  inOrder : layers.Pairwise fun lower upper => ∀ r ∈ lower, ∀ r' ∈ upper, r.time ≤ r'.time

/-- Whatever batches come, a tail is in layers. -/
theorem exists_layers (cutoff : Option Time.Instant) (history : List (List Entry)) :
    ∃ layers, InLayers history layers ((merge cutoff).replay (merge cutoff).initial history) := by
  induction history using List.reverseRecOn with
  | nil => exact ⟨[], rfl, .nil, .nil⟩
  | append_singleton history batch ih =>
    obtain ⟨layers, hheld, hsent, hinOrder⟩ := ih
    have hdated : ((merge cutoff).replay (merge cutoff).initial history).Dated :=
      dated_empty.replay history
    rw [Merge.replay_append]
    generalize (merge cutoff).replay (merge cutoff).initial history = tail at hheld hdated ⊢
    obtain ⟨added, hrecords, hsublist, hlate⟩ := exists_appended cutoff tail batch
    refine ⟨layers ++ [added], ?_, List.rel_append hsent (.cons hsublist .nil), ?_⟩
    · rw [List.flatten_append, List.flatten_singleton, hheld]
      exact hrecords.symm
    · refine List.pairwise_append.2 ⟨hinOrder, List.pairwise_singleton _ _, ?_⟩
      intro lower hlower upper hupper r hr r' hr'
      obtain rfl := List.mem_singleton.1 hupper
      -- what is held is no later than the newest, and what is added no earlier
      have hmem : r ∈ tail.records.toList := hheld ▸ List.mem_flatten.2 ⟨lower, hlower, hr⟩
      obtain ⟨n, hn, hle⟩ := hdated.bound r hmem
      exact le_trans hle (hlate r' hr' n hn)

/-- The layer of a record newer than the last one ends with the last one: what
lies above it would be no older. -/
theorem InLayers.getLast?_layer {layers : List (List Record)} (h : InLayers history layers tail)
    {i : Nat} (hi : i < layers.length) {r last : Record} (hr : r ∈ layers[i])
    (hlast : tail.records.toList.getLast? = some last) (hlt : last.time < r.time) :
    layers[i].getLast? = some last := by
  have hsplit : layers = layers.take i ++ layers[i] :: layers.drop (i + 1) := by
    rw [← List.drop_eq_getElem_cons hi, List.take_append_drop]
  have hinOrder := h.inOrder
  rw [hsplit, List.pairwise_append, List.pairwise_cons] at hinOrder
  rw [← h.held, hsplit, List.flatten_append, List.flatten_cons] at hlast
  have hnone : (layers.drop (i + 1)).flatten = [] := by
    by_contra hsome
    rw [← List.append_assoc, List.getLast?_append_of_ne_nil _ hsome] at hlast
    obtain ⟨upper, hupper, hmem⟩ := List.mem_flatten.1 (List.mem_of_getLast? hlast)
    exact not_le.2 hlt (hinOrder.2.1.1 upper hupper r hr last hmem)
  rwa [hnone, List.append_nil, List.getLast?_append_of_ne_nil _ (List.ne_nil_of_mem hr)] at hlast

/-- **A record newer than the last one came before it, in the same batch.** -/
theorem InLayers.sent_before_last {layers : List (List Record)} (h : InLayers history layers tail)
    {r last : Record} (hr : r ∈ tail.records.toList)
    (hlast : tail.records.toList.getLast? = some last) (hlt : last.time < r.time) :
    ∃ batch ∈ history, [r.entry, last.entry].Sublist batch := by
  rw [← h.held] at hr
  obtain ⟨layer, hlayer, hr⟩ := List.mem_flatten.1 hr
  obtain ⟨i, hi, rfl⟩ := List.getElem_of_mem hlayer
  obtain ⟨front, hfront⟩ := List.getLast?_eq_some_iff.1 (h.getLast?_layer hi hr hlast hlt)
  rw [hfront, List.mem_append, List.mem_singleton] at hr
  have hmem : r ∈ front := hr.resolve_right fun hsame => lt_irrefl _ (hsame ▸ hlt)
  have hpair : [r, last].Sublist layers[i] := by
    rw [hfront]
    exact (List.singleton_sublist.2 hmem).append (List.Sublist.refl [last])
  have hbatch : i < history.length := h.sent.length_eq ▸ hi
  exact ⟨history[i], List.getElem_mem hbatch, (hpair.map Record.entry).trans
    (h.sent.get hi hbatch)⟩

/-! ## What is kept of the order of a log -/

/-- **What a tail keeps of the order of a log** that came in some batches. -/
structure Layered (cutoff : Option Time.Instant) (history : List (List Entry)) (tail : Tail) :
    Prop where
  /-- There is no newest time exactly if nothing is held, -/
  undated : tail.newest = none ↔ tail.records.toList = []
  /-- and otherwise it is the greatest of the times held, in whatever order they
  came. -/
  newest : ∀ n, tail.newest = some n ↔
    IsGreatest {t | ∃ r ∈ tail.records.toList, r.time = t} n
  /-- Every record has the time of its line. -/
  timed : tail.Timed
  /-- The next batch leaves what is held and appends records of its lines, in
  their order, that are no older than the newest one held before it. -/
  appends : ∀ batch, ∃ added,
    ((merge cutoff).next tail batch).records.toList = tail.records.toList ++ added ∧
      (added.map Record.entry).Sublist batch ∧
      ∀ r ∈ added, ∀ n, tail.newest = some n → n ≤ r.time
  /-- So what is held lies in layers, one for each batch, and times are out of
  order only within one of them. -/
  layers : ∃ layers, InLayers history layers tail

/-- **Whatever batches come, a tail keeps them in order**, though not the lines
of each. -/
theorem layered_replay (cutoff : Option Time.Instant) (history : List (List Entry)) :
    Layered cutoff history ((merge cutoff).replay (merge cutoff).initial history) := by
  have hdated : ((merge cutoff).replay (merge cutoff).initial history).Dated :=
    dated_empty.replay history
  exact {
    undated := hdated.newest_eq_none_iff
    newest := fun _ => hdated.newest_eq_some_iff
    timed := timed_empty.replay history
    appends := exists_appended cutoff _
    layers := exists_layers cutoff history }

end Tail

end Log

end Telemetry
