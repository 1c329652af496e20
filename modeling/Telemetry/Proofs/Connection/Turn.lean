import Mathlib.Data.List.Induction
import Telemetry.Connection.Course
import Telemetry.Proofs.Failure
/-!
# Connection — what a turn can do

The steps of the machine, taken apart once. `Turn.Took` lists what a
stimulus can lead to, and `Turn.Leads` says what holds between any two
turns of which one comes out of the other: callbacks are only added, none
that the plan rules out, none after the connection is closed, and one that
closes the connection is the last. Facts about courses are proved from
these two by induction over the stimuli (`course_induction`).
-/

namespace Telemetry

namespace Connection

variable {ι : Type} {p : Plan ι} {now epoch : Nat} {t : Turn ι}

/-- What was added last is the entry looked at, or stands behind it. -/
theorem split_snoc {α : Type} {l before after : List α} {x y : α}
    (h : l ++ [x] = before ++ y :: after) :
    (after = [] ∧ l = before ∧ x = y) ∨ ∃ rest, after = rest ++ [x] ∧ l = before ++ y :: rest := by
  obtain rfl | ⟨rest, z, rfl⟩ := List.eq_nil_or_concat after
  · obtain ⟨hl, hx⟩ := List.append_inj' h rfl
    exact .inl ⟨rfl, hl, List.singleton_inj.1 hx⟩
  · rw [List.concat_eq_append] at h ⊢
    rw [← List.cons_append, ← List.append_assoc] at h
    obtain ⟨hl, hx⟩ := List.append_inj' h rfl
    exact .inr ⟨rest, by rw [hx], hl⟩

@[simp] theorem calls_append (a b : List (Signal ι)) : calls (a ++ b) = calls a ++ calls b :=
  List.filterMap_append ..

@[simp] theorem dials_append (a b : List (Signal ι)) : dials (a ++ b) = dials a ++ dials b :=
  List.filterMap_append ..

@[simp] theorem calls_call (c : Callback ι) : calls [.call c] = [c] := rfl

@[simp] theorem calls_dial (u : Url) : calls [Signal.dial (ι := ι) u] = [] := rfl

@[simp] theorem dials_call (c : Callback ι) : dials [.call c] = [] := rfl

@[simp] theorem dials_dial (u : Url) : dials [Signal.dial (ι := ι) u] = [u] := rfl

/-- A closed connection stays as it is when it is closed again. -/
theorem shut_of_closed {c : Connection} (h : c.closed = true) : c.shut = c := by
  simp [shut, h]

/-- An open one raises the flag and shows it. -/
theorem shut_of_open {c : Connection} (h : c.closed = false) : c.shut = c.raise.conclude := by
  simp [shut, h]

theorem state_shut_of_open {c : Connection} (h : c.closed = false) : c.shut.state = .closed := by
  rw [shut_of_open h]
  rfl

@[simp] theorem closed_shut (c : Connection) : c.shut.closed = true := by
  by_cases h : c.closed = true <;> simp [shut, raise, conclude, h]

@[simp] theorem activity_shut (c : Connection) : c.shut.activity = c.activity := by
  by_cases h : c.closed = true <;> simp [shut, raise, conclude, h]

@[simp] theorem epoch_shut (c : Connection) : c.shut.epoch = c.epoch := by
  by_cases h : c.closed = true <;> simp [shut, raise, conclude, h]

@[simp] theorem opened_shut (c : Connection) : c.shut.opened = c.opened := by
  by_cases h : c.closed = true <;> simp [shut, raise, conclude, h]

@[simp] theorem attempts_shut (c : Connection) : c.shut.attempts = c.attempts := by
  by_cases h : c.closed = true <;> simp [shut, raise, conclude, h]

@[simp] theorem called_shut (c : Connection) : c.shut.called = c.called := by
  by_cases h : c.closed = true <;> simp [shut, raise, conclude, h]

/-- Whether something is awaited that can be lost: a socket, or the answer
to an attempt. -/
def Activity.awaits : Activity → Bool
  | .dialing _ | .listening _ => true
  | _ => false

/-- **Why a connection loses what it waits for**: it is told so, or has waited
as long as it was to. -/
inductive Loss (p : Plan ι) (now : Nat) (c : Connection) : Stimulus → Fault → Prop where
  | refused (deadline : Nat) (f : Fault) (h : c.activity = .dialing deadline) :
      Loss p now c (.dialed (.error f)) f
  | reported (deadline : Nat) (f : Fault) (h : c.activity = .listening deadline) :
      Loss p now c (.lost c.epoch f) f
  | ended (deadline : Nat) (h : c.activity = .listening deadline) :
      Loss p now c (.frame c.epoch .close) (.transport "closed by remote host")
  | lapsed (deadline : Nat) (h : c.activity = .dialing deadline ∨ c.activity = .listening deadline)
      (hdue : deadline ≤ now) : Loss p now c .alarm (.silence p.policy.heartbeatTimeout)

/-- Only what waits for something can lose it. -/
theorem Loss.awaits {c : Connection} {s : Stimulus} {f : Fault} (h : Loss p now c s f) :
    c.activity.awaits = true := by
  cases h with
  | refused deadline f h => rw [h]; rfl
  | reported deadline f h => rw [h]; rfl
  | ended deadline h => rw [h]; rfl
  | lapsed deadline h hdue => rcases h with h | h <;> rw [h] <;> rfl

/-- Whether a callback is news that came over a socket. -/
def Callback.isNews : Callback ι → Bool
  | .data _ | .heartbeat => true
  | _ => false

/-- **What a frame is to the handler**: a ping is a heartbeat, a text what
it reads as, and nothing if it does not read. -/
def Plan.image (p : Plan ι) : Frame → Option (Callback ι)
  | .close => none
  | .ping => some .heartbeat
  | .text s =>
    match Payload.decode p.read s with
    | .ok .heartbeat => some .heartbeat
    | .ok (.results batch) => some (.data batch)
    | .error _ => none

/-- What a frame is to the handler is news. -/
theorem isNews_of_image {f : Frame} {c : Callback ι} (h : p.image f = some c) :
    c.isNews = true := by
  cases f with
  | close => cases h
  | ping => cases h; rfl
  | text s =>
    simp only [Plan.image] at h
    split at h <;> cases h <;> rfl

/-- **Which callbacks a plan allows**: `Reconnecting` if the connection
reconnects, and then no reason to give up but the want of an address. -/
def Plan.Allows (p : Plan ι) : Callback ι → Prop
  | .state .reconnecting _ => p.policy.autoReconnect = true
  | .terminal f => p.policy.autoReconnect = true → ∃ n, p.address n = .error f
  | _ => True

/-- News is always allowed. -/
theorem Plan.allows_of_isNews {c : Callback ι} (h : c.isNews = true) : p.Allows c := by
  cases c <;> trivial

namespace Turn

/-! ## One callback -/

section tell

variable (p t) (c : Callback ι)

@[simp] theorem told_tell : (tell p t c).told = t.told ++ [c] := by simp [tell, told]

@[simp] theorem dialed_tell : (tell p t c).dialed = t.dialed := by simp [tell, dialed]

@[simp] theorem activity_tell : (tell p t c).link.activity = t.link.activity := by
  simp only [tell]
  split <;> simp

@[simp] theorem epoch_tell : (tell p t c).link.epoch = t.link.epoch := by
  simp only [tell]
  split <;> simp

@[simp] theorem opened_tell : (tell p t c).link.opened = t.link.opened := by
  simp only [tell]
  split <;> simp

@[simp] theorem called_tell : (tell p t c).link.called = t.link.called + 1 := by
  simp only [tell]
  split <;> simp

@[simp] theorem attempts_tell : (tell p t c).link.attempts = t.link.attempts := by
  simp only [tell]
  split <;> simp

/-- A callback closes the connection exactly if the plan says so. -/
theorem closed_tell : (tell p t c).link.closed = (t.link.closed || p.closesOn t.link.called c) := by
  simp only [tell]
  split <;> simp_all

/-- Nothing but closing the connection changes its state. -/
theorem state_tell (h : t.link.closed = false) :
    (tell p t c).link.state = if p.closesOn t.link.called c then .closed else t.link.state := by
  simp only [tell]
  split <;> simp_all [state_shut_of_open]

end tell

theorem deliver_of_closed (h : t.link.closed = true) (c : Callback ι) :
    deliver p t epoch c = t := by simp [deliver, h]

/-- On behalf of the current epoch an open connection runs every
callback. -/
theorem deliver_of_open (h : t.link.closed = false) (c : Callback ι) :
    deliver p t t.link.epoch c = tell p t c := by simp [deliver, h]

theorem enter_of_closed (h : t.link.closed = true) (s : State) : enter p t s epoch = t := by
  simp [enter, h]

theorem enter_of_open (h : t.link.closed = false) (he : epoch = t.link.epoch) (s : State) :
    enter p t s epoch = tell p { t with link := { t.link with state := s } } (.state s epoch) := by
  simp [enter, deliver, h, he]

/-! What is not about callbacks they leave alone. -/

section proceed

variable (t) (a : Activity)

@[simp] theorem activity_proceed : (proceed t a).link.activity = a := rfl

@[simp] theorem epoch_proceed : (proceed t a).link.epoch = t.link.epoch := rfl

@[simp] theorem opened_proceed : (proceed t a).link.opened = t.link.opened := rfl

@[simp] theorem dialed_proceed : (proceed t a).dialed = t.dialed := rfl

end proceed

section fields

variable (p t) (c : Callback ι) (s : State) (f : Fault)

@[simp] theorem dialed_deliver : (deliver p t epoch c).dialed = t.dialed := by
  unfold deliver
  split <;> simp

@[simp] theorem activity_deliver : (deliver p t epoch c).link.activity = t.link.activity := by
  unfold deliver
  split <;> simp

@[simp] theorem epoch_deliver : (deliver p t epoch c).link.epoch = t.link.epoch := by
  unfold deliver
  split <;> simp

@[simp] theorem opened_deliver : (deliver p t epoch c).link.opened = t.link.opened := by
  unfold deliver
  split <;> simp

@[simp] theorem dialed_enter : (enter p t s epoch).dialed = t.dialed := by
  unfold enter
  split
  · rfl
  · rw [dialed_deliver]
    rfl

@[simp] theorem activity_enter : (enter p t s epoch).link.activity = t.link.activity := by
  unfold enter
  split <;> simp

@[simp] theorem epoch_enter : (enter p t s epoch).link.epoch = t.link.epoch := by
  unfold enter
  split <;> simp

@[simp] theorem opened_enter : (enter p t s epoch).link.opened = t.link.opened := by
  unfold enter
  split <;> simp

@[simp] theorem attempts_enter : (enter p t s epoch).link.attempts = t.link.attempts := by
  unfold enter deliver
  split
  · rfl
  · split
    · rfl
    · exact attempts_tell ..

@[simp] theorem dialed_fail : (fail p t f).dialed = t.dialed := by
  change (deliver p _ _ _).dialed = _
  simp

@[simp] theorem activity_fail : (fail p t f).link.activity = .finished := rfl

@[simp] theorem closed_fail : (fail p t f).link.closed = true := rfl

@[simp] theorem epoch_fail : (fail p t f).link.epoch = t.link.epoch := by simp [fail]

@[simp] theorem opened_fail : (fail p t f).link.opened = t.link.opened := by simp [fail]

end fields

/-- **An attempt** fails for want of an address, or dials one. -/
theorem attempt_cases (p : Plan ι) (now : Nat) (t : Turn ι) :
    (∃ f, p.address t.link.attempts = .error f ∧ attempt p now t = fail p t.count f) ∨
    ∃ u, attempt p now t = proceed ⟨t.count.link, t.signals ++ [.dial u]⟩
      (.dialing (now + p.policy.heartbeatTimeout.millis)) := by
  unfold attempt
  cases p.address t.link.attempts with
  | error f => exact .inl ⟨f, rfl, rfl⟩
  | ok u => exact .inr ⟨u, rfl⟩

/-- It dials the address that it is given, if it is given one. -/
theorem dialed_attempt (p : Plan ι) (now : Nat) (t : Turn ι) :
    (attempt p now t).dialed = t.dialed ++ (p.address t.link.attempts).toOption.toList := by
  unfold attempt
  cases p.address t.link.attempts with
  | error f => exact (dialed_fail (t := t.count) ..).trans (List.append_nil _).symm
  | ok u => simp [dialed, proceed, Except.toOption]

/-- It waits for the answer, or has given up. -/
theorem activity_attempt (p : Plan ι) (now : Nat) (t : Turn ι) :
    (attempt p now t).link.activity = .dialing (now + p.policy.heartbeatTimeout.millis) ∧
      (attempt p now t).dialed ≠ [] ∨
    (attempt p now t).link.activity = .finished ∧ (attempt p now t).link.closed = true := by
  obtain ⟨f, -, h⟩ | ⟨u, h⟩ := attempt_cases p now t <;> rw [h]
  · exact .inr ⟨rfl, rfl⟩
  · exact .inl ⟨rfl, by simp [dialed, proceed]⟩

@[simp] theorem epoch_attempt : (attempt p now t).link.epoch = t.link.epoch := by
  obtain ⟨f, -, h⟩ | ⟨u, h⟩ := attempt_cases p now t <;> rw [h]
  · exact epoch_fail p t.count f
  · rfl

@[simp] theorem opened_attempt : (attempt p now t).link.opened = t.link.opened := by
  obtain ⟨f, -, h⟩ | ⟨u, h⟩ := attempt_cases p now t <;> rw [h]
  · exact opened_fail p t.count f
  · rfl

/-- **A loss** is followed by a rest, or by giving up. -/
theorem lose_cases (p : Plan ι) (now : Nat) (t : Turn ι) (f : Fault) :
    (p.policy.autoReconnect = true ∧ lose p now t f =
      proceed (enter p t .reconnecting t.link.epoch)
        (.resting (now + p.policy.reconnectDelay.millis))) ∨
    (p.policy.autoReconnect = false ∧ lose p now t f = fail p t f) := by
  unfold lose
  cases p.policy.autoReconnect with
  | true => exact .inl ⟨rfl, rfl⟩
  | false => exact .inr ⟨rfl, rfl⟩

/-- It rests, or has given up. -/
theorem activity_lose (p : Plan ι) (now : Nat) (t : Turn ι) (f : Fault) :
    (lose p now t f).link.activity = .resting (now + p.policy.reconnectDelay.millis) ∨
      (lose p now t f).link.activity = .finished := by
  rcases lose_cases p now t f with ⟨-, h⟩ | ⟨-, h⟩ <;> rw [h]
  · exact .inl rfl
  · exact .inr rfl

@[simp] theorem dialed_lose (f : Fault) : (lose p now t f).dialed = t.dialed := by
  rcases lose_cases p now t f with ⟨-, h⟩ | ⟨-, h⟩ <;> simp [h]

@[simp] theorem epoch_lose (f : Fault) : (lose p now t f).link.epoch = t.link.epoch := by
  rcases lose_cases p now t f with ⟨-, h⟩ | ⟨-, h⟩ <;> simp [h]

@[simp] theorem opened_lose (f : Fault) : (lose p now t f).link.opened = t.link.opened := by
  rcases lose_cases p now t f with ⟨-, h⟩ | ⟨-, h⟩ <;> simp [h]

/-! ## What a stimulus can lead to -/

/-- What was heard stays heard, and the handler is told what it means. -/
theorem hear_eq {f : Frame} (hf : f ≠ .close) :
    hear p now t epoch f =
      let t := proceed t (.listening (now + p.policy.heartbeatTimeout.millis))
      match p.image f with
      | some c => deliver p t epoch c
      | none => t := by
  cases f with
  | close => exact absurd rfl hf
  | ping => rfl
  | text s =>
    simp only [hear, Plan.image]
    rcases Payload.decode p.read s with _ | _ | batch <;> rfl

/-- What is heard is told, or it means nothing to the handler. -/
theorem hear_cases (p : Plan ι) (now : Nat) (t : Turn ι) (epoch : Nat) {f : Frame}
    (hf : f ≠ .close) :
    (∃ c, c.isNews = true ∧ hear p now t epoch f =
      deliver p (proceed t (.listening (now + p.policy.heartbeatTimeout.millis))) epoch c) ∨
    hear p now t epoch f = proceed t (.listening (now + p.policy.heartbeatTimeout.millis)) := by
  rw [hear_eq hf]
  cases hc : p.image f with
  | some c => exact .inl ⟨c, isNews_of_image hc, rfl⟩
  | none => exact .inr rfl

theorem epoch_greet : (greet p now t).link.epoch = t.advance.link.epoch := epoch_enter ..

@[simp] theorem opened_greet : (greet p now t).link.opened = true := opened_enter ..

@[simp] theorem dialed_greet : (greet p now t).dialed = t.dialed := dialed_enter (t := t.advance) ..

/-- While the connection is open, the handler is told of a socket that
opens. -/
theorem told_greet (ho : t.link.closed = false) :
    (greet p now t).told = t.told ++ [.state .live t.advance.link.epoch] := by
  change (enter p t.advance .live t.advance.link.epoch).told = _
  rw [enter_of_open (t := t.advance) ho rfl, told_tell]
  rfl

section hear

variable {f : Frame} (hf : f ≠ .close)

include hf

theorem activity_hear : (hear p now t epoch f).link.activity =
    .listening (now + p.policy.heartbeatTimeout.millis) := by
  rcases hear_cases p now t epoch hf with ⟨c, -, h⟩ | h <;> simp [h]

theorem epoch_hear : (hear p now t epoch f).link.epoch = t.link.epoch := by
  rcases hear_cases p now t epoch hf with ⟨c, -, h⟩ | h <;> simp [h]

theorem opened_hear : (hear p now t epoch f).link.opened = t.link.opened := by
  rcases hear_cases p now t epoch hf with ⟨c, -, h⟩ | h <;> simp [h]

theorem dialed_hear : (hear p now t epoch f).dialed = t.dialed := by
  rcases hear_cases p now t epoch hf with ⟨c, -, h⟩ | h <;> simp [h]

/-- While the connection is open, the handler is told at once. -/
theorem told_hear (ho : t.link.closed = false) :
    (hear p now t t.link.epoch f).told = t.told ++ (p.image f).toList := by
  let u := proceed t (.listening (now + p.policy.heartbeatTimeout.millis))
  have hdeliver : ∀ c, deliver p u t.link.epoch c = tell p u c := deliver_of_open (t := u) ho
  rw [hear_eq hf]
  cases p.image f with
  | some c => exact (congrArg told (hdeliver c)).trans (told_tell ..)
  | none => exact (List.append_nil _).symm

end hear

/-- **What a stimulus leads to**, and when. -/
inductive Took (p : Plan ι) (now : Nat) (t : Turn ι) (s : Stimulus) : Turn ι → Prop where
  | ignored : Took p now t s t
  | started (h : t.link.activity = .fresh) :
      Took p now t s (attempt p now (enter p t .connecting 0))
  | opened (deadline : Nat) (h : t.link.activity = .dialing deadline) (hs : s = .dialed (.ok ())) :
      Took p now t s (greet p now t)
  | lost (f : Fault) (h : Loss p now t.link s f) : Took p now t s (lose p now t f)
  | heard (deadline : Nat) (f : Frame) (h : t.link.activity = .listening deadline)
      (hf : f ≠ .close) (hs : s = .frame t.link.epoch f) :
      Took p now t s (hear p now t t.link.epoch f)
  | retried (time : Nat) (h : t.link.activity = .resting time) (htime : time ≤ now) :
      Took p now t s (attempt p now t)
  | closed (hs : s = .close) : Took p now t s { t with link := t.link.shut }
  | left (h : t.link.closed = true) (hs : s = .leave) : Took p now t s (proceed t .finished)

/-- Nothing comes of time but what comes of waiting. -/
theorem took_wake : Took p now t .alarm (wake p now t) := by
  unfold wake
  split
  · next deadline h =>
    split
    · next hdue => exact .lost _ (.lapsed deadline (.inl h) hdue)
    · exact .ignored
  · next deadline h =>
    split
    · next hdue => exact .lost _ (.lapsed deadline (.inr h) hdue)
    · exact .ignored
  · next time h =>
    split
    · next htime => exact .retried time h htime
    · exact .ignored
  · exact .ignored

/-- **Every stimulus leads to one of these.** -/
theorem took_take (p : Plan ι) (now : Nat) (t : Turn ι) (s : Stimulus) :
    Took p now t s (t.take p now s) := by
  unfold take
  split
  · next h => exact .started h
  · next deadline h => exact .opened deadline h rfl
  · next f deadline h => exact .lost f (.refused deadline f h)
  · next e f deadline h =>
    split
    · next he =>
      subst he
      by_cases hf : f = .close
      · exact hf ▸ .lost _ (.ended deadline h)
      · exact .heard deadline f h hf rfl
    · exact .ignored
  · next e f deadline h =>
    split
    · next he => exact he ▸ .lost f (.reported deadline f h)
    · exact .ignored
  · exact took_wake
  · exact .closed rfl
  · next a =>
    split
    · next h => exact .left (by simp_all) rfl
    · exact .ignored
  · exact .ignored

/-! ## What every turn keeps -/

/-- **What holds of a turn and one that comes out of it.** -/
structure Leads (p : Plan ι) (t t' : Turn ι) : Prop where
  /-- Allowed callbacks are added and counted, none once the connection is
  closed, and one that closes it is the last. -/
  told : ∃ cs, t'.told = t.told ++ cs ∧ t'.link.called = t.link.called + cs.length ∧
    (∀ c ∈ cs, p.Allows c) ∧ (t.link.closed = true → cs = []) ∧
    ∀ i c, cs[i]? = some c → p.closesOn (t.link.called + i) c = true →
      i + 1 = cs.length ∧ t'.link.closed = true
  /-- What is closed stays closed. -/
  closed : t.link.closed = true → t'.link.closed = true
  /-- What is closed says so. -/
  state : (t.link.closed = true → t.link.state = .closed) →
    t'.link.closed = true → t'.link.state = .closed

namespace Leads

variable {u v : Turn ι}

/-- A turn that runs no callback and closes nothing. -/
theorem quiet (htold : u.told = t.told) (hcalled : u.link.called = t.link.called)
    (hclosed : u.link.closed = t.link.closed)
    (hstate : t.link.closed = true → u.link.state = t.link.state) : Leads p t u where
  told := ⟨[], by simpa using htold, by simpa using hcalled, by simp, fun _ => rfl, by simp⟩
  closed h := hclosed.trans h
  state h h₂ := (hstate (hclosed ▸ h₂)).trans (h (hclosed ▸ h₂))

theorem refl (t : Turn ι) : Leads p t t := .quiet rfl rfl rfl fun _ => rfl

/-- What is open was open before. -/
theorem open_before (h : Leads p t u) (ho : u.link.closed = false) : t.link.closed = false := by
  by_contra hclosed
  rw [h.closed (by simpa using hclosed)] at ho
  cases ho

theorem trans (h : Leads p t u) (h' : Leads p u v) : Leads p t v where
  told := by
    obtain ⟨cs, htold, hcalled, hallowed, hnone, hlast⟩ := h.told
    obtain ⟨cs', htold', hcalled', hallowed', hnone', hlast'⟩ := h'.told
    refine ⟨cs ++ cs', by rw [htold', htold, List.append_assoc],
      by rw [hcalled', hcalled, List.length_append, Nat.add_assoc],
      fun c hc => (List.mem_append.1 hc).elim (hallowed c) (hallowed' c), fun hc => ?_,
      fun i c hi hcloses => ?_⟩
    · rw [hnone hc, hnone' (h.closed hc), List.append_nil]
    · -- a callback of the first turn that closes leaves none to the second
      rcases Nat.lt_or_ge i cs.length with hlt | hge
      · rw [List.getElem?_append_left hlt] at hi
        obtain ⟨hi, hc⟩ := hlast i c hi hcloses
        exact ⟨by simp [hnone' hc, hi], h'.closed hc⟩
      · rw [List.getElem?_append_right hge] at hi
        have hn : u.link.called + (i - cs.length) = t.link.called + i := by omega
        obtain ⟨hi, hc⟩ := hlast' _ c hi (hn ▸ hcloses)
        exact ⟨by rw [List.length_append]; omega, hc⟩
  closed hc := h'.closed (h.closed hc)
  state hs := h'.state (h.state hs)

/-- Closing afterwards, once the state says so. -/
theorem ending (h : Leads p t u) (htold : v.told = u.told)
    (hcalled : v.link.called = u.link.called) (hclosed : v.link.closed = true)
    (hstate : (t.link.closed = true → t.link.state = .closed) → v.link.state = .closed) :
    Leads p t v where
  told := by
    obtain ⟨cs, h1, h2, h3, h4, h5⟩ := h.told
    exact ⟨cs, htold.trans h1, hcalled.trans h2, h3, h4,
      fun i c hi hc => ⟨(h5 i c hi hc).1, hclosed⟩⟩
  closed _ := hclosed
  state hs _ := hstate hs

/-- **A callback from inside which the connection is closed is the
last**, if what led to it began at the beginning. -/
theorem closes (h : Leads p (of fresh) t) {i : Nat} {c : Callback ι} (hi : t.told[i]? = some c)
    (hc : p.closesOn i c = true) : i + 1 = t.told.length ∧ t.link.closed = true := by
  obtain ⟨cs, htold, -, -, -, hlast⟩ := h.told
  rw [show (of (ι := ι) fresh).told = [] from rfl, List.nil_append] at htold
  rw [htold] at hi ⊢
  exact hlast i c hi (by rwa [show (of (ι := ι) fresh).link.called + i = i from Nat.zero_add i])

end Leads

theorem leads_tell (h : t.link.closed = false) {c : Callback ι} (hc : p.Allows c) :
    Leads p t (tell p t c) where
  told := by
    refine ⟨[c], told_tell .., called_tell .., fun d hd => List.mem_singleton.1 hd ▸ hc,
      fun h' => absurd h' (by simp [h]), fun i d hi hcloses => ?_⟩
    obtain ⟨hi0, rfl⟩ : i = 0 ∧ c = d := by
      cases i <;> simp_all
    subst hi0
    exact ⟨rfl, by rw [closed_tell]; simpa using .inr hcloses⟩
  closed h' := absurd h' (by simp [h])
  state _ hcloses := by
    rw [closed_tell, h, Bool.false_or] at hcloses
    rw [state_tell _ _ _ h, if_pos hcloses]

theorem leads_deliver (epoch : Nat) {c : Callback ι} (hc : p.Allows c) :
    Leads p t (deliver p t epoch c) := by
  unfold deliver
  split
  · exact .refl t
  · next h => exact leads_tell (by simp_all) hc

theorem leads_enter {s : State} {epoch : Nat} (hs : p.Allows (.state s epoch)) :
    Leads p t (enter p t s epoch) := by
  unfold enter
  split
  · exact .refl t
  · next h =>
    have hopen : t.link.closed = true → s = t.link.state := fun hc => absurd hc h
    exact .trans (u := { t with link := { t.link with state := s } })
      (.quiet rfl rfl rfl hopen) (leads_deliver epoch hs)

theorem leads_proceed (a : Activity) : Leads p t (proceed t a) :=
  .quiet rfl rfl rfl fun _ => rfl

/-- Giving up leaves the connection in its last state. -/
theorem state_fail (h : t.link.closed = true → t.link.state = .closed) (f : Fault) :
    (fail p t f).link.state = .closed := by
  have hentered : (enter p t .closed t.link.epoch).link.state = .closed := by
    by_cases hc : t.link.closed = true
    · rw [enter_of_closed hc, h hc]
    · have ho : t.link.closed = false := by simpa using hc
      rw [enter_of_open ho rfl, state_tell]
      · simp
      · exact ho
  -- being told the reason, the handler may close what is about to be closed
  simp only [fail, deliver]
  split
  · exact hentered
  · next ho =>
    rw [state_tell _ _ _ (by simp_all)]
    split
    · rfl
    · exact hentered

theorem leads_fail {f : Fault} (hf : p.Allows (.terminal f)) : Leads p t (fail p t f) :=
  .ending (.trans (leads_enter (s := .closed) trivial) (leads_deliver t.link.epoch hf))
    rfl rfl rfl fun h => state_fail h f

theorem leads_attempt : Leads p t (attempt p now t) := by
  obtain ⟨f, hf, h⟩ | ⟨u, h⟩ := attempt_cases p now t <;> rw [h]
  · exact .trans (u := t.count) (.quiet rfl rfl rfl fun _ => rfl) (leads_fail fun _ => ⟨_, hf⟩)
  · exact .quiet (by simp [told, proceed]) rfl rfl fun _ => rfl

theorem leads_lose (f : Fault) : Leads p t (lose p now t f) := by
  rcases lose_cases p now t f with ⟨hauto, h⟩ | ⟨hauto, h⟩ <;> rw [h]
  · exact .trans (leads_enter (s := .reconnecting) hauto) (leads_proceed _)
  · exact leads_fail fun hauto' => absurd hauto' (by simp [hauto])

theorem leads_greet : Leads p t (greet p now t) :=
  .trans (u := t.advance) (.quiet rfl rfl rfl fun _ => rfl)
    (.trans (leads_enter (s := .live) trivial) (leads_proceed _))

theorem leads_hear {f : Frame} (hf : f ≠ .close) : Leads p t (hear p now t epoch f) := by
  rcases hear_cases p now t epoch hf with ⟨c, hnews, h⟩ | h <;> rw [h]
  · exact .trans (leads_proceed _) (leads_deliver _ (p.allows_of_isNews hnews))
  · exact leads_proceed _

/-- **Every stimulus leads on.** -/
theorem leads_take (s : Stimulus) : Leads p t (t.take p now s) := by
  have h := took_take p now t s
  generalize t.take p now s = t' at h
  cases h with
  | ignored => exact .refl t
  | started h => exact .trans (leads_enter (s := .connecting) trivial) leads_attempt
  | opened _ h => exact leads_greet
  | lost f h => exact leads_lose f
  | heard _ f h hf => exact leads_hear hf
  | retried _ h htime => exact leads_attempt
  | closed hs =>
    refine .ending (.refl t) rfl (called_shut _) (closed_shut _) fun h => ?_
    by_cases hc : t.link.closed = true
    · rw [shut_of_closed hc, h hc]
    · exact state_shut_of_open (by simpa using hc)
  | left h => exact leads_proceed _

/-! ## Steps are turns -/

/-- A turn with more done before it. -/
def after (t : Turn ι) (done : List (Signal ι)) : Turn ι := { t with signals := done ++ t.signals }

section after

variable (done : List (Signal ι))

theorem tell_after (c : Callback ι) : tell p (t.after done) c = (tell p t c).after done :=
  congrArg (Turn.mk _) (List.append_assoc done t.signals [.call c])

theorem deliver_after (c : Callback ι) :
    deliver p (t.after done) epoch c = (deliver p t epoch c).after done := by
  unfold deliver
  rw [apply_ite (after · done), ← tell_after]
  rfl

theorem enter_after (s : State) :
    enter p (t.after done) s epoch = (enter p t s epoch).after done := by
  unfold enter
  rw [apply_ite (after · done), ← deliver_after]
  rfl

theorem fail_after (f : Fault) : fail p (t.after done) f = (fail p t f).after done := by
  simp only [fail]
  rw [show (t.after done).link = t.link from rfl, enter_after, deliver_after]
  rfl

theorem attempt_after : attempt p now (t.after done) = (attempt p now t).after done := by
  unfold attempt
  rw [show (t.after done).link = t.link from rfl]
  split
  · exact fail_after (t := t.count) done _
  · simp [proceed, after, count]

theorem lose_after (f : Fault) : lose p now (t.after done) f = (lose p now t f).after done := by
  unfold lose
  rw [show (t.after done).link = t.link from rfl, enter_after, fail_after, apply_ite (after · done)]
  rfl

theorem greet_after : greet p now (t.after done) = (greet p now t).after done :=
  congrArg (proceed · (.listening (now + p.policy.heartbeatTimeout.millis)))
    (enter_after (t := t.advance) done .live)

theorem hear_after (f : Frame) :
    hear p now (t.after done) epoch f = (hear p now t epoch f).after done := by
  by_cases hf : f = .close
  · subst hf
    exact lose_after done _
  · rw [hear_eq hf, hear_eq hf]
    dsimp only
    split
    · exact deliver_after (t := proceed t (.listening _)) done _
    · rfl

theorem wake_after : wake p now (t.after done) = (wake p now t).after done := by
  unfold wake
  rw [show (t.after done).link = t.link from rfl]
  split <;> (try split) <;> first | rfl | exact lose_after done _ | exact attempt_after done

theorem take_after (p : Plan ι) (now : Nat) (t : Turn ι) (s : Stimulus) :
    (t.after done).take p now s = (t.take p now s).after done := by
  unfold take
  rw [show (t.after done).link = t.link from rfl]
  split
  · rw [enter_after, attempt_after]
  · exact greet_after done
  · exact lose_after done _
  · split
    · exact hear_after done _
    · rfl
  · split
    · exact lose_after done _
    · rfl
  · exact wake_after done
  · rfl
  · split <;> rfl
  · rfl

end after

/-- **A step is a turn**: what it adds to what was done before does not
depend on that. -/
theorem follow_eq_take (s : Stimulus) : t.follow p now s = t.take p now s := by
  have h := take_after t.signals p now (of t.link) s
  rw [show (of t.link).after t.signals = t by simp [after, of]] at h
  exact h.symm

end Turn

/-! ## Steps -/

section step

variable (p now) (c : Connection) (s : Stimulus)

/-- What a step tells, the plan allows. -/
theorem allows_step : ∀ called ∈ calls (step p now c s).2, p.Allows called := by
  have hleads : Turn.Leads p (.of c) ((Turn.of c).take p now s) := Turn.leads_take s
  obtain ⟨cs, htold, -, hallowed, -⟩ := hleads.told
  rw [show calls (step p now c s).2 = cs from htold]
  exact hallowed

/-- **A closed connection tells nothing**, -/
theorem calls_step_of_closed (h : c.closed = true) : calls (step p now c s).2 = [] := by
  have hleads : Turn.Leads p (.of c) ((Turn.of c).take p now s) := Turn.leads_take s
  obtain ⟨cs, htold, -, -, hnone, -⟩ := hleads.told
  exact htold.trans (hnone h)

/-- and stays closed. -/
theorem closed_step (h : c.closed = true) : (step p now c s).1.closed = true :=
  (Turn.leads_take (t := .of c) s).closed h

/-- **What a step dials** is an address of the plan. -/
theorem address_of_mem_dials_step {u : Url} (h : u ∈ dials (step p now c s).2) :
    ∃ n, p.address n = .ok u := by
  have hok : ∀ n, u ∈ (p.address n).toOption.toList → ∃ n, p.address n = .ok u := by
    intro n hu
    exact ⟨n, ok_of_toOption (Option.mem_toList.1 hu)⟩
  have htook := Turn.took_take p now (.of c) s
  change u ∈ ((Turn.of (ι := ι) c).take p now s).dialed at h
  generalize (Turn.of (ι := ι) c).take p now s = t at h htook
  have hnone : u ∉ (Turn.of (ι := ι) c).dialed := List.not_mem_nil
  cases htook with
  | ignored => exact absurd h hnone
  | started _ =>
    rw [Turn.dialed_attempt, Turn.dialed_enter] at h
    exact hok _ ((List.mem_append.1 h).resolve_left hnone)
  | opened => exact absurd (Turn.dialed_greet ▸ h) hnone
  | lost f => exact absurd (Turn.dialed_lose f ▸ h) hnone
  | heard _ f _ hf => exact absurd (Turn.dialed_hear hf ▸ h) hnone
  | retried =>
    rw [Turn.dialed_attempt] at h
    exact hok _ ((List.mem_append.1 h).resolve_left hnone)
  | closed => exact absurd h hnone
  | left => exact absurd h hnone

end step

/-! ## Courses -/

@[simp] theorem course_nil : course p [] = .of .fresh := rfl

theorem course_snoc (es : List (Nat × Stimulus)) (e : Nat × Stimulus) :
    course p (es ++ [e]) = (course p es).take p e.1 e.2 := by
  rw [course, List.foldl_append, ← Turn.follow_eq_take]
  rfl

/-- **What a connection begins with and every stimulus keeps holds of all
its courses.** -/
theorem course_induction {P : Turn ι → Prop} (hfresh : P (.of .fresh))
    (htake : ∀ t now s, P t → P (t.take p now s)) (es : List (Nat × Stimulus)) :
    P (course p es) := by
  induction es using List.reverseRecOn with
  | nil => exact hfresh
  | append_singleton es e ih => exact course_snoc es e ▸ htake _ _ _ ih

/-- Whatever happens later leads on. -/
theorem leads_course (es es' : List (Nat × Stimulus)) :
    Turn.Leads p (course p es) (course p (es ++ es')) := by
  induction es' using List.reverseRecOn with
  | nil => rw [List.append_nil]; exact .refl _
  | append_singleton es' e ih =>
    rw [← List.append_assoc, course_snoc]
    exact ih.trans (Turn.leads_take e.2)

/-- Every course leads on from the beginning. -/
theorem leads_from_fresh (es : List (Nat × Stimulus)) :
    Turn.Leads p (.of .fresh) (course p es) := leads_course [] es

/-- No course leads to a callback that the plan rules out. -/
theorem allows_course (es : List (Nat × Stimulus)) : ∀ c ∈ (course p es).told, p.Allows c := by
  obtain ⟨cs, htold, -, hallowed, -⟩ := (leads_from_fresh (p := p) es).told
  rw [htold]
  exact hallowed

/-- A callback from inside which the connection is closed is the last. -/
theorem closes_course {es : List (Nat × Stimulus)} {i : Nat} {c : Callback ι}
    (hi : (course p es).told[i]? = some c) (hc : p.closesOn i c = true) :
    i + 1 = (course p es).told.length ∧ (course p es).link.closed = true :=
  (leads_from_fresh es).closes hi hc

theorem take_close : t.take p now .close = { t with link := t.link.shut } := by
  unfold Turn.take
  split <;> first | rfl | simp_all

/-- A connection asked to close is closed from then on. -/
theorem closed_course {es : List (Nat × Stimulus)} (h : ∃ e ∈ es, e.2 = .close) :
    (course p es).link.closed = true := by
  obtain ⟨⟨now, s⟩, he, rfl⟩ := h
  obtain ⟨before, after, rfl⟩ := List.append_of_mem he
  rw [List.append_cons]
  refine (leads_course _ after).closed ?_
  rw [course_snoc, take_close]
  exact closed_shut _

/-- A closed connection says that it is. -/
theorem state_course {es : List (Nat × Stimulus)} (h : (course p es).link.closed = true) :
    (course p es).link.state = .closed :=
  (leads_from_fresh es).state (fun h => absurd h (by simp [Turn.of, fresh])) h

end Connection

end Telemetry
