import Telemetry.Proofs.Gate
/-!
# The gate — what it has announced

Whoever looks at a tree only when it is announced sees the trees that
`announced` lists, one after the other. Before a candid merge the last of them
is the tree there is (`tree_eq_of_candid`): an action either announces the tree
it leaves, or leaves the tree alone, for what is merged in silence changes
nothing, and what is held while the gate is shut is not merged at all.

A gate to which no batch has come has nothing to say, and still announces its
tree when it is opened out of a pause (`Reopened.announced_ne_nil`): the one
there was at the beginning (`eq_initial_of_mem_announced`).
-/

namespace Telemetry

namespace Gate

variable {ι τ ω : Type}

/-- The tree of a notice. -/
def Notice.tree? : Notice τ → Option τ
  | .merged tree => some tree
  | .heartbeat => none

/-- The trees a gate announces in the course of some actions, in order. -/
def announcements (m : Merge ι τ ω) (g : Gate ι τ) : List (Action ι) → List τ
  | [] => []
  | a :: rest =>
    let (after, notice) := g.act m a
    (notice.bind Notice.tree?).toList ++ announcements m after rest

/-- The trees announced by a gate that was fresh before some actions. -/
def announced (m : Merge ι τ ω) (hears : Bool) (as : List (Action ι)) : List τ :=
  announcements m (fresh m hears) as

variable {m : Merge ι τ ω} {hears : Bool} {as : List (Action ι)}

/-- An action announces its tree, or none. -/
theorem tree?_notice_act (m : Merge ι τ ω) (g : Gate ι τ) (a : Action ι) :
    (g.act m a).2.bind Notice.tree? =
      if g.announces m a then some (g.act m a).1.tree else none := by
  rw [notice_act]
  by_cases ha : g.announces m a
  · simp [ha, Notice.tree?]
  · simp [ha, Notice.tree?]

/-- **One more action** announces one more tree, the one it leaves, or none. -/
theorem announced_snoc (as : List (Action ι)) (a : Action ι) :
    announced m hears (as ++ [a]) = announced m hears as ++
      if (run m hears as).announces m a then [(run m hears (as ++ [a])).tree] else [] := by
  have happend : ∀ g : Gate ι τ, announcements m g (as ++ [a]) = announcements m g as ++
      (((as.foldl (fun g a => (g.act m a).1) g).act m a).2.bind Notice.tree?).toList := by
    induction as with
    | nil =>
      intro g
      simp [announcements]
    | cons b rest ih =>
      intro g
      simp only [List.cons_append, announcements, ih, List.foldl_cons, List.append_assoc]
  rw [announced, happend, run_snoc, run, tree?_notice_act]
  split <;> rfl

/-- **The last tree announced is the tree there is**, if the merge is candid;
before the first one it is the tree there was at the beginning. -/
theorem tree_eq_of_candid (hm : m.Candid) (hears : Bool) (as : List (Action ι)) :
    (run m hears as).tree = (announced m hears as).getLast?.getD m.initial := by
  induction as using List.reverseRecOn with
  | nil => rfl
  | append_singleton as a ih =>
    rw [announced_snoc]
    cases ha : (run m hears as).announces m a with
    | true => simp
    | false =>
      -- the last announcement is an earlier one, and so is the tree
      have hsame : (run m hears (as ++ [a])).tree = (run m hears as).tree := by
        rw [run_snoc]
        exact tree_act_of_silent m _ a hm ha
      rw [hsame, ih]
      simp

/-! ## Gates to which nothing has come -/

/-- **A gate is reopened** in the course of some actions if one of them opens
it out of a pause. -/
def Reopened (m : Merge ι τ ω) (hears : Bool) (as : List (Action ι)) : Prop :=
  ∃ before after, as = before ++ .resume :: after ∧ (run m hears before).shut = true

theorem Reopened.snoc (h : Reopened m hears as) (a : Action ι) :
    Reopened m hears (as ++ [a]) := by
  obtain ⟨before, after, rfl, hshut⟩ := h
  exact ⟨before, after ++ [a], by simp, hshut⟩

/-- An action that announces a tree brings a batch, or opens the gate. -/
theorem batch_or_reopened {a : Action ι} (ha : (run m hears as).announces m a = true) :
    (∃ batch, a.batch? = some batch) ∨ Reopened m hears (as ++ [a]) := by
  rcases (announces_iff m _ a).1 ha with ⟨batch, hbatch, -⟩ | ⟨rfl, hshut⟩
  · exact .inl ⟨batch, hbatch⟩
  · exact .inr ⟨as, [], rfl, hshut⟩

/-- **What a gate has announced** it owes to a batch, or to a pause. -/
theorem arrivals_or_reopened (h : announced m hears as ≠ []) :
    arrivals as ≠ [] ∨ Reopened m hears as := by
  induction as using List.reverseRecOn with
  | nil => exact absurd rfl h
  | append_singleton as a ih =>
    rw [announced_snoc] at h
    rw [arrivals_snoc]
    cases ha : (run m hears as).announces m a with
    | true =>
      refine (batch_or_reopened ha).imp_left ?_
      rintro ⟨batch, hbatch⟩
      simp [hbatch]
    | false =>
      have hbefore : announced m hears as ≠ [] := by simpa [ha] using h
      refine (ih hbefore).imp (fun harrived => ?_) fun hreopened => hreopened.snoc a
      simp [harrived]

/-- A gate that was reopened has announced a tree. -/
theorem Reopened.announced_ne_nil (h : Reopened m hears as) : announced m hears as ≠ [] := by
  obtain ⟨before, after, rfl, hshut⟩ := h
  induction after using List.reverseRecOn with
  | nil =>
    have hannounces : (run m hears before).announces m .resume = true := hshut
    simp [announced_snoc, hannounces]
  | append_singleton after a ih =>
    rw [← List.cons_append, ← List.append_assoc, announced_snoc]
    exact List.append_ne_nil_of_left_ne_nil ih _

/-- **If no batch has come**, the tree is the one there was at the
beginning. -/
theorem tree_run_of_silent (h : arrivals as = []) : (run m hears as).tree = m.initial := by
  have hperm : (merged m hears as ++ (run m hears as).held).Perm (arrivals as) := perm_run as
  rw [h, List.perm_nil, List.append_eq_nil_iff] at hperm
  rw [tree_run, hperm.1]
  rfl

/-- And whatever has been announced is this tree. -/
theorem eq_initial_of_mem_announced (h : arrivals as = []) :
    ∀ tree ∈ announced m hears as, tree = m.initial := by
  induction as using List.reverseRecOn with
  | nil =>
    intro tree htree
    cases htree
  | append_singleton as a ih =>
    intro tree htree
    rw [announced_snoc, List.mem_append] at htree
    rcases htree with hbefore | hlast
    · rw [arrivals_snoc, List.append_eq_nil_iff] at h
      exact ih h.1 tree hbefore
    · have hlast : tree = (run m hears (as ++ [a])).tree := by
        split at hlast
        · exact List.mem_singleton.1 hlast
        · cases hlast
      rw [hlast, tree_run_of_silent h]

end Gate

end Telemetry
