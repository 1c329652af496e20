import Telemetry.Proofs.Gate.Announcement
/-!
# The gate — snapshots taken during a pause

Live payloads may come before the snapshot that tells of an earlier time, and
those that were sent after it may come before it too. A gate that is shut until
the snapshot is there does not care: it holds the snapshot before all that has
been pushed, so that what it merges when it opens is the snapshot and then the
payloads in their order (`run_seeding`), wherever among them the snapshot came.
-/

namespace Telemetry

namespace Gate

variable {ι τ ω : Type} {m : Merge ι τ ω} {hears : Bool} {as before during : List (Action ι)}

/-! ## What is announced during a pause -/

/-- A shut gate has nothing to announce until it is opened. -/
theorem announces_of_shut {g : Gate ι τ} {a : Action ι} (hs : g.shut = true) (ha : a ≠ .resume) :
    g.announces m a = false := by
  rw [Bool.eq_false_iff]
  intro hannounces
  rcases (announces_iff m g a).1 hannounces with ⟨batch, -, hopen, -⟩ | ⟨hresume, -⟩
  · exact absurd (hs.symm.trans hopen) (by decide)
  · exact ha hresume

/-- **A pause is silent.** -/
theorem Paused.announced_eq (h : Paused m hears as before during) :
    announced m hears as = announced m hears before := by
  obtain ⟨rfl, hopen, hnone⟩ := h
  induction during using List.reverseRecOn with
  | nil => simp [announced_snoc, announces]
  | append_singleton during a ih =>
    have hearlier : .resume ∉ during := fun hmem => hnone (List.mem_append_left _ hmem)
    have hpaused : Paused m hears (before ++ .pause :: during) before during :=
      ⟨rfl, hopen, hearlier⟩
    have ha : a ≠ .resume := fun heq => hnone (by simp [heq])
    rw [← List.cons_append, ← List.append_assoc, announced_snoc,
      announces_of_shut hpaused.held.1 ha, ih hearlier]
    simp

/-- **A pause that ends** leaves the gate as it was, but for what it held: that
is merged, in its order, and announced once. -/
theorem Paused.resume (h : Paused m hears as before during) :
    run m hears (as ++ [.resume]) =
      { run m hears before with
        tree := m.replay (run m hears before).tree ((seeded during).reverse ++ pushed during) } ∧
    announced m hears (as ++ [.resume]) =
      announced m hears before ++ [(run m hears (as ++ [.resume])).tree] := by
  obtain ⟨hshut, hmerged, hheld⟩ := h.held
  have htree : (run m hears as).tree = (run m hears before).tree := by
    rw [tree_run, tree_run, hmerged]
  have hheard : (run m hears as).hearsHeartbeats = (run m hears before).hearsHeartbeats := by
    rw [hears_run, hears_run]
  have hannounces : (run m hears as).announces m .resume = true := hshut
  refine ⟨?_, by rw [announced_snoc, hannounces, if_pos rfl, h.announced_eq]⟩
  rw [run_snoc, ← hheld, ← htree]
  simp [act, Gate.resume, hshut, h.flowing, held_of_open h.flowing, hheard]

/-! ## One snapshot among the payloads -/

/-- The batches some payloads bring. -/
def batches (payloads : List (Payload ι)) : List (List ι) :=
  pushed (payloads.map Action.ofPayload)

/-- **A pause in which a snapshot comes**, after some payloads and before
others. -/
def seeding (before : List (Payload ι)) (snapshot : List ι) (after : List (Payload ι)) :
    List (Action ι) :=
  .pause :: (before.map Action.ofPayload ++ .seed snapshot :: after.map Action.ofPayload) ++
    [.resume]

/-- No payload is a snapshot. -/
theorem seeded_payloads (payloads : List (Payload ι)) :
    seeded (payloads.map Action.ofPayload) = [] := by
  rw [seeded, List.filterMap_map, List.filterMap_eq_nil_iff]
  intro p _
  cases p <;> rfl

/-- Nor does it open a gate. -/
theorem resume_notMem_payloads (payloads : List (Payload ι)) :
    .resume ∉ payloads.map Action.ofPayload := by
  rw [List.mem_map]
  rintro ⟨p, -, hp⟩
  cases p <;> cases hp

/-- **The snapshot goes first**, wherever it comes: when the gate opens it
merges the snapshot and then the batches pushed, all in order, and says so
once. -/
theorem run_seeding (h : (run m hears as).shut = false) (before : List (Payload ι))
    (snapshot : List ι) (after : List (Payload ι)) :
    run m hears (as ++ seeding before snapshot after) =
      { run m hears as with
        tree := m.replay (run m hears as).tree (snapshot :: batches (before ++ after)) } ∧
    announced m hears (as ++ seeding before snapshot after) =
      announced m hears as ++ [(run m hears (as ++ seeding before snapshot after)).tree] := by
  let during := before.map Action.ofPayload ++ .seed snapshot :: after.map Action.ofPayload
  have hpaused : Paused m hears (as ++ .pause :: during) as during := by
    refine ⟨rfl, h, fun hmem => ?_⟩
    rcases List.mem_append.1 hmem with hmem | hmem
    · exact resume_notMem_payloads before hmem
    · rcases List.mem_cons.1 hmem with hseed | hmem
      · cases hseed
      · exact resume_notMem_payloads after hmem
  have hseeded : seeded during = [snapshot] := by
    have hsplit : seeded during = seeded (before.map Action.ofPayload) ++
        snapshot :: seeded (after.map Action.ofPayload) := by
      simp [during, seeded]
    rw [hsplit, seeded_payloads, seeded_payloads, List.nil_append]
  have hpushed : pushed during = batches (before ++ after) := by
    simp [during, pushed, batches]
  have hresume := hpaused.resume
  rw [hseeded, hpushed, List.append_assoc] at hresume
  exact hresume

example :
    let m : Merge Nat Nat Empty := ⟨0, fun t batch => ⟨t + batch.sum, batch.sum != 0, []⟩⟩
    merged m true (.push [1] :: seeding [.results [2]] [30] [.heartbeat, .results [4]]) =
      [[1], [30], [2], [4]] := by decide

end Gate

end Telemetry
