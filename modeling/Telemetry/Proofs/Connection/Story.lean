import Telemetry.Proofs.Connection.Turn
/-!
# Connection — the story a handler is told

The grammar of callbacks. A story begins with `Connecting`, then tells how
often no socket opened at first, then one sitting after the other: a
socket opens in the next epoch, brings news, is lost, and some attempts at
another fail. What a handler has been told is the beginning of a story,
and may end with `Closed` and the reason.

`Tells` says how far into a story an open connection is. It follows the
callbacks one at a time, which is all that is ever needed of it.
-/

namespace Telemetry

namespace Connection

variable {ι : Type}

/-- The state a callback tells of. -/
def Callback.state? : Callback ι → Option State
  | .state s _ => some s
  | _ => none

/-- The epoch a callback opens. -/
def Callback.opens? : Callback ι → Option Nat
  | .state .live epoch => some epoch
  | _ => none

/-- The last state told of. -/
def lastState (cs : List (Callback ι)) : State :=
  (cs.filterMap Callback.state?).getLast?.getD .connecting

/-- The last epoch opened. -/
def lastEpoch (cs : List (Callback ι)) : Nat := (cs.filterMap Callback.opens?).getLast?.getD 0

/-- What is told of one socket: its news, and how many of the attempts
after it failed. -/
structure Sitting (ι : Type) where
  news : List (Callback ι)
  isNews : ∀ c ∈ news, c.isNews = true
  failures : Nat

/-- How a sitting is told. -/
def Sitting.tale (s : Sitting ι) (epoch : Nat) : List (Callback ι) :=
  .state .live epoch :: (s.news ++ List.replicate (s.failures + 1) (.state .reconnecting epoch))

/-- How a connection is told that fails a number of times and then has
some sittings. -/
def story (failures : Nat) (sittings : List (Sitting ι)) : List (Callback ι) :=
  .state .connecting 0 :: (List.replicate failures (.state .reconnecting 0) ++
    sittings.zipIdx.flatMap fun s => s.1.tale s.2)

/-- **The grammar of callbacks**: the beginning of a story, or of one that
ends with the last state and the reason. -/
def Grammatical (cs : List (Callback ι)) : Prop :=
  ∃ failures sittings told f, told ≠ [] ∧ told <+: story failures sittings ∧
    cs <+: told ++ [.state .closed (lastEpoch told), .terminal f]

/-! ## The last of what was told -/

theorem lastState_snoc (cs : List (Callback ι)) (c : Callback ι) :
    lastState (cs ++ [c]) = c.state?.getD (lastState cs) := by
  cases h : c.state? <;> simp [lastState, h]

theorem lastEpoch_snoc (cs : List (Callback ι)) (c : Callback ι) :
    lastEpoch (cs ++ [c]) = c.opens?.getD (lastEpoch cs) := by
  cases h : c.opens? <;> simp [lastEpoch, h]

theorem opens?_of_isNews {c : Callback ι} (h : c.isNews = true) : c.opens? = none := by
  cases c <;> first | rfl | cases h

/-- Callbacks that open nothing leave the last epoch as it is. -/
theorem lastEpoch_append (cs : List (Callback ι)) {more : List (Callback ι)}
    (h : ∀ c ∈ more, c.opens? = none) : lastEpoch (cs ++ more) = lastEpoch cs := by
  rw [lastEpoch, List.filterMap_append, List.filterMap_eq_nil_iff.2 h, List.append_nil, lastEpoch]

/-! ## Stories -/

theorem story_snoc (n : Nat) (ss : List (Sitting ι)) (s : Sitting ι) :
    story n (ss ++ [s]) = story n ss ++ s.tale ss.length := by
  simp [story, List.zipIdx_append]

/-- One more failure before the first sitting. -/
theorem story_failed (n : Nat) :
    story (n + 1) [] = story (ι := ι) n [] ++ [.state .reconnecting 0] := by
  simp [story, List.replicate_succ']

/-- One more failure after a sitting. -/
theorem tale_failed (s : Sitting ι) (epoch : Nat) :
    Sitting.tale { s with failures := s.failures + 1 } epoch =
      s.tale epoch ++ [.state .reconnecting epoch] := by
  simp [Sitting.tale, List.replicate_succ' (n := s.failures + 1)]

/-- How far a story has got. -/
inductive Phase where
  /-- Nothing has been told. -/
  | silent
  /-- No socket is open. -/
  | between
  /-- The socket of the last epoch opened is open. -/
  | seated
  deriving DecidableEq

/-- **How far into a story some callbacks are**: the phase, whether an
epoch was opened, and which was the last. -/
inductive Tells : Phase → Bool → Nat → List (Callback ι) → Prop where
  | silent : Tells .silent false 0 []
  | unopened (n : Nat) : Tells .between false 0 (story n [])
  | parted (n : Nat) (ss : List (Sitting ι)) (s : Sitting ι) :
      Tells .between true ss.length (story n (ss ++ [s]))
  | seated (n : Nat) (ss : List (Sitting ι)) (news : List (Callback ι))
      (h : ∀ c ∈ news, c.isNews = true) :
      Tells .seated true ss.length (story n ss ++ .state .live ss.length :: news)

namespace Tells

variable {ph : Phase} {o : Bool} {e : Nat} {cs : List (Callback ι)}

/-- The first callback. -/
theorem begin (h : Tells .silent o e cs) :
    e = 0 ∧ Tells .between o e (cs ++ [.state .connecting 0]) := by
  cases h
  exact ⟨rfl, .unopened 0⟩

/-- A failure between two sockets, or the loss of one. -/
theorem reconnect (h : Tells ph o e cs) (hph : ph ≠ .silent) :
    Tells .between o e (cs ++ [.state .reconnecting e]) := by
  cases h with
  | silent => exact absurd rfl hph
  | unopened n => exact story_failed n ▸ .unopened (n + 1)
  | parted n ss s =>
    -- one more failure belongs to the sitting that ended last
    rw [story_snoc, List.append_assoc, ← tale_failed, ← story_snoc]
    exact .parted n ss _
  | seated n ss news hnews =>
    -- the sitting is over: its news, and the first failure after it
    have h : (⟨news, hnews, 0⟩ : Sitting ι).tale ss.length =
      .state .live ss.length :: news ++ [.state .reconnecting ss.length] := rfl
    rw [List.append_assoc, ← h, ← story_snoc]
    exact .parted n ss _

/-- A socket opens in the next epoch. -/
theorem live (h : Tells .between o e cs) :
    Tells .seated true (if o then e + 1 else e)
      (cs ++ [.state .live (if o then e + 1 else e)]) := by
  cases h with
  | unopened n => exact .seated n [] [] (by simp)
  | parted n ss s =>
    have h := Tells.seated n (ss ++ [s]) [] (by simp)
    rwa [List.length_append] at h

/-- News over the open socket. -/
theorem hear (h : Tells .seated o e cs) {c : Callback ι} (hc : c.isNews = true) :
    Tells .seated o e (cs ++ [c]) := by
  cases h with
  | seated n ss news hnews =>
    rw [List.append_assoc]
    refine .seated n ss (news ++ [c]) fun d hd => ?_
    rcases List.mem_append.1 hd with hd | hd
    · exact hnews d hd
    · exact List.mem_singleton.1 hd ▸ hc

/-- What has been told is the beginning of a story. -/
theorem isPrefix (h : Tells ph o e cs) (hph : ph ≠ .silent) :
    cs ≠ [] ∧ ∃ n ss, cs <+: story n ss := by
  cases h with
  | silent => exact absurd rfl hph
  | unopened n => exact ⟨by simp [story], n, [], List.prefix_rfl⟩
  | parted n ss s => exact ⟨by simp [story], n, _, List.prefix_rfl⟩
  | seated n ss news hnews =>
    -- any story serves in which the sitting ends with this news
    refine ⟨by simp, n, ss ++ [⟨news, hnews, 0⟩], ?_⟩
    rw [story_snoc, List.prefix_append_right_inj]
    exact List.prefix_append (.state .live ss.length :: news) _

/-- The epoch kept is the last one told of. -/
theorem lastEpoch_eq (h : Tells ph o e cs) : lastEpoch cs = e := by
  have opened (k : Nat) (told more : List (Callback ι)) (hmore : ∀ c ∈ more, c.opens? = none) :
      lastEpoch (told ++ .state .live k :: more) = k := by
    rw [List.append_cons, lastEpoch_append _ hmore, lastEpoch_snoc]
    rfl
  cases h with
  | silent => rfl
  | unopened n =>
    refine (lastEpoch_append [] fun c hc => ?_)
    rcases List.mem_cons.1 hc with rfl | hc
    · rfl
    · have hc : c ∈ List.replicate n (.state .reconnecting 0) := by simpa using hc
      rw [List.eq_of_mem_replicate hc]; rfl
  | parted n ss s =>
    rw [story_snoc]
    refine opened _ _ _ fun c hc => ?_
    rcases List.mem_append.1 hc with hc | hc
    · exact opens?_of_isNews (s.isNews c hc)
    · rw [List.eq_of_mem_replicate hc]; rfl
  | seated n ss news hnews => exact opened _ _ _ fun c hc => opens?_of_isNews (hnews c hc)

/-- A story in which the last state is that of an open socket is in the middle
of a sitting. -/
theorem seated_of_lastState (h : Tells ph o e cs) (hlast : lastState cs = .live) :
    ph = .seated := by
  cases h with
  | silent => cases hlast
  | unopened n =>
    cases n with
    | zero => cases hlast
    | succ n =>
      rw [story_failed, lastState_snoc] at hlast
      cases hlast
  | parted n ss s =>
    -- the last state of a sitting that is over is that of a lost socket
    have htale : s.tale ss.length = .state .live ss.length ::
        (s.news ++ List.replicate s.failures (.state .reconnecting ss.length)) ++
          [.state .reconnecting ss.length] := by
      simp [Sitting.tale, List.replicate_succ']
    rw [story_snoc, htale, ← List.append_assoc, lastState_snoc] at hlast
    cases hlast
  | seated n ss news hnews => rfl

/-- **A story may end here**, with the last state and the reason. -/
theorem grammatical_closed (h : Tells ph o e cs) (hph : ph ≠ .silent) (f : Fault)
    {cut : List (Callback ι)} (hcut : cut <+: [.state .closed e, .terminal f]) :
    Grammatical (cs ++ cut) := by
  obtain ⟨hne, n, ss, hpre⟩ := h.isPrefix hph
  refine ⟨n, ss, cs, f, hne, hpre, ?_⟩
  rw [h.lastEpoch_eq, List.prefix_append_right_inj]
  exact hcut

/-- **What has been told is grammatical.** -/
theorem grammatical (h : Tells ph o e cs) : Grammatical cs := by
  by_cases hph : ph = .silent
  · subst hph
    cases h
    exact ⟨0, [], story 0 [], .badUrl "", by simp [story], List.prefix_rfl, List.nil_prefix⟩
  · simpa using h.grammatical_closed hph (.badUrl "") List.nil_prefix

end Tells

/-! ## Where a story ends -/

/-- No story holds a reason to give up. -/
theorem terminal_notMem_story (n : Nat) (ss : List (Sitting ι)) (f : Fault) :
    .terminal f ∉ story n ss := by
  intro h
  rcases List.mem_cons.1 h with h | h
  · cases h
  · rcases List.mem_append.1 h with h | h
    · cases List.eq_of_mem_replicate h
    · obtain ⟨⟨s, k⟩, -, h⟩ := List.mem_flatMap.1 h
      rcases List.mem_cons.1 h with h | h
      · cases h
      · rcases List.mem_append.1 h with h | h
        · cases s.isNews _ h
        · cases List.eq_of_mem_replicate h

/-- **The reason is told last**, and right after `Closed`. -/
theorem Grammatical.terminal {cs : List (Callback ι)} (h : Grammatical cs) {i : Nat} {f : Fault}
    (hi : cs[i]? = some (.terminal f)) :
    i + 1 = cs.length ∧ ∃ j e, i = j + 1 ∧ cs[j]? = some (.state .closed e) := by
  obtain ⟨n, ss, told, f', hne, hpre, hcs⟩ := h
  obtain ⟨rest, hrest⟩ := hcs
  have hlt : i < cs.length := (List.getElem?_eq_some_iff.1 hi).1
  have hall : ∀ j < cs.length,
      cs[j]? = (told ++ [.state .closed (lastEpoch told), .terminal f'])[j]? := fun j hj => by
    rw [← hrest, List.getElem?_append_left hj]
  have hlen := congrArg List.length hrest
  simp only [List.length_append, List.length_cons, List.length_nil] at hlen
  -- the reason is not among what was told before, nor is it the state
  have hge : ¬ i < told.length := fun hlt' => by
    rw [hall i hlt, List.getElem?_append_left hlt'] at hi
    exact terminal_notMem_story n ss f (hpre.subset (List.mem_of_getElem? hi))
  have hne' : i ≠ told.length := fun he => by
    rw [hall i hlt, he, List.getElem?_append_right (Nat.le_refl _)] at hi
    simp at hi
  refine ⟨by omega, told.length, lastEpoch told, by omega, ?_⟩
  rw [hall _ (by omega), List.getElem?_append_right (Nat.le_refl _)]
  simp

end Connection

end Telemetry
