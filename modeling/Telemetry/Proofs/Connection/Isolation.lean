import Telemetry.Proofs.Connection.Orderly
/-!
# Connection — each epoch hears its own socket

All sockets of a connection share one queue, and their readers go on for a
while after they are given up. Still every epoch tells its handler of
nothing but what its own socket yielded, in order, each frame once
(`isolated_run`). Two facts carry it. A socket opens in an epoch that no
socket had before, so tags tell sockets apart. And what an open connection
has told of its socket and what the queue holds of it make up together
what its reader has passed on (`Current`).
-/

namespace Telemetry

namespace Connection

variable {ι : Type} {p : Plan ι} {now epoch : Nat} {t t' : Turn ι} {w : Wire ι}

/-! ## Lists -/

/-- An entry that fails the test ends what is taken, whatever comes after. -/
theorem takeWhile_append_of_neg {α : Type} {q : α → Bool} {l : List α} {x : α} (hx : x ∈ l)
    (hq : q x = false) (more : List α) : (l ++ more).takeWhile q = l.takeWhile q := by
  obtain ⟨before, after, rfl⟩ := List.append_of_mem hx
  induction before with
  | nil => simp [hq]
  | cons y before ih =>
    simp only [List.cons_append, List.takeWhile_cons]
    split
    · rw [ih (by simp)]
    · rfl

/-- The last entry that fails the test stands at one place only. -/
theorem last_unique {α : Type} {q : α → Bool} {before before' after after' : List α} {x x' : α}
    (h : before ++ x :: after = before' ++ x' :: after') (hx : q x = false) (hx' : q x' = false)
    (ha : ∀ y ∈ after, q y = true) (ha' : ∀ y ∈ after', q y = true) : x = x' ∧ after = after' := by
  have htail : ∀ (before after : List α) (x : α), q x = false → (∀ y ∈ after, q y = true) →
      (before ++ x :: after).reverse.takeWhile q = after.reverse ∧
        (before ++ x :: after).reverse.dropWhile q = x :: before.reverse := by
    intro before after x hx ha
    have hall : ∀ y ∈ after.reverse, q y = true := fun y hy => ha y (List.mem_reverse.1 hy)
    rw [List.reverse_append, List.reverse_cons, List.append_assoc]
    constructor
    · rw [List.takeWhile_append_of_pos hall]
      simp [hx]
    · rw [List.dropWhile_append_of_pos hall]
      simp [hx]
  obtain ⟨htake, hdrop⟩ := htail before after x hx ha
  obtain ⟨htake', hdrop'⟩ := htail before' after' x' hx' ha'
  rw [h] at htake hdrop
  exact ⟨(List.cons.inj (hdrop.symm.trans hdrop')).1,
    List.reverse_inj.1 (htake.symm.trans htake')⟩

/-- What is left of the first entries begins with the next of them. -/
theorem next_of_drop {α : Type} {ys rest : List α} {a : α} {passed n : Nat}
    (h : a :: rest = (ys.take passed).drop n) :
    n + 1 ≤ passed ∧ ys.take (n + 1) = ys.take n ++ [a] ∧ rest = (ys.take passed).drop (n + 1) := by
  have hget : (ys.take passed)[n]? = some a := by
    have h0 := congrArg (·[0]?) h
    simpa [List.getElem?_drop] using h0.symm
  have hlt : n < passed := by
    have hlt := (List.getElem?_eq_some_iff.1 hget).1
    rw [List.length_take] at hlt
    omega
  refine ⟨hlt, ?_, ?_⟩
  · rw [List.getElem?_take_of_lt hlt] at hget
    rw [List.take_add_one, hget]
    rfl
  · rw [← List.tail_drop, ← h]
    rfl

/-! ## What an epoch hears -/

/-- What an arrival is to the handler; the loss of a socket is no news. -/
def Plan.imageOf (p : Plan ι) : Arrival → Option (Callback ι)
  | .frame f => p.image f
  | .failed _ | .ended => none

/-- A loss is no more than that to the connection. -/
theorem stimulus_of_isLoss {a : Arrival} (h : a.isLoss = true) (epoch : Nat) :
    ∃ f, a.stimulus epoch = .lost epoch f := by
  cases a with
  | frame f =>
    cases f with
    | close => exact ⟨_, rfl⟩
    | text s => cases h
    | ping => cases h
  | failed reason => exact ⟨_, rfl⟩
  | ended => exact ⟨_, rfl⟩

/-- All else are frames. -/
theorem frame_of_not_isLoss {a : Arrival} (h : ¬ a.isLoss = true) :
    ∃ f, a = .frame f ∧ f ≠ .close := by
  cases a with
  | frame f => exact ⟨f, rfl, fun hf => h (hf ▸ rfl)⟩
  | failed reason => exact absurd rfl h
  | ended => exact absurd rfl h

/-- And no news to the handler. -/
theorem imageOf_of_isLoss {a : Arrival} (h : a.isLoss = true) : p.imageOf a = none := by
  cases a with
  | frame f => cases f <;> first | rfl | cases h
  | failed reason => rfl
  | ended => rfl

/-- What it hears of is. -/
theorem isNews_of_imageOf {a : Arrival} {c : Callback ι} (h : p.imageOf a = some c) :
    c.isNews = true := by
  cases a with
  | frame f => exact isNews_of_image h
  | failed reason => cases h
  | ended => cases h

/-- **Each epoch hears its own socket**: the news told since an epoch
opened is what the first arrivals of its socket are to the handler. -/
def Heard (p : Plan ι) (readers : List Reader) (cs : List (Callback ι)) : Prop :=
  ∀ before epoch rest, cs = before ++ .state .live epoch :: rest →
    ∃ r n, readers[epoch]? = some r ∧ n ≤ r.passed ∧
      rest.takeWhile Callback.isNews = (r.yielded.take n).filterMap p.imageOf

/-- **The books of the current epoch**: what was told of its socket, and
what the queue holds of it, is what its reader has passed on. -/
def Current (p : Plan ι) (l : Line) (epoch : Nat) (cs : List (Callback ι)) : Prop :=
  ∃ before news r n, cs = before ++ .state .live epoch :: news ∧ (∀ c ∈ news, c.isNews = true) ∧
    l.readers[epoch]? = some r ∧ n ≤ r.passed ∧
    news = (r.yielded.take n).filterMap p.imageOf ∧
    (l.queue.filter (·.1 == epoch)).map Prod.snd = (r.yielded.take r.passed).drop n

/-! ## What is told besides news -/

namespace Turn

/-- Tells nothing that is news or opens an epoch. -/
structure Dry (t t' : Turn ι) : Prop where
  told : ∃ cs, t'.told = t.told ++ cs ∧ ∀ c ∈ cs, c.isNews = false ∧ c.opens? = none
  epoch : t'.link.epoch = t.link.epoch
  opened : t'.link.opened = t.link.opened

theorem Dry.of_told (htold : t'.told = t.told) (hepoch : t'.link.epoch = t.link.epoch)
    (hopened : t'.link.opened = t.link.opened) : Dry t t' :=
  ⟨⟨[], by simpa using htold, by simp⟩, hepoch, hopened⟩

theorem Dry.trans {u : Turn ι} (h : Dry t u) (h' : Dry u t') : Dry t t' where
  told := by
    obtain ⟨cs, htold, hcs⟩ := h.told
    obtain ⟨cs', htold', hcs'⟩ := h'.told
    refine ⟨cs ++ cs', by rw [htold', htold, List.append_assoc], fun c hc => ?_⟩
    rcases List.mem_append.1 hc with hc | hc
    · exact hcs c hc
    · exact hcs' c hc
  epoch := h'.epoch.trans h.epoch
  opened := h'.opened.trans h.opened

theorem dry_deliver (p : Plan ι) (epoch : Nat) {c : Callback ι}
    (hc : c.isNews = false ∧ c.opens? = none) : Dry t (deliver p t epoch c) := by
  refine ⟨?_, epoch_deliver .., opened_deliver ..⟩
  unfold deliver
  split
  · exact ⟨[], by simp, by simp⟩
  · exact ⟨[c], told_tell .., by simpa using hc⟩

theorem dry_enter (p : Plan ι) (epoch : Nat) {s : State} (hs : s ≠ .live) :
    Dry t (enter p t s epoch) := by
  unfold enter
  split
  · exact .of_told rfl rfl rfl
  · refine .trans (u := { t with link := { t.link with state := s } }) (.of_told rfl rfl rfl)
      (dry_deliver p epoch ⟨rfl, ?_⟩)
    cases s <;> first | rfl | exact absurd rfl hs

theorem dry_fail (f : Fault) : Dry t (fail p t f) :=
  have h : Dry t _ := (dry_enter p t.link.epoch (s := .closed) State.noConfusion).trans
    (dry_deliver p t.link.epoch (c := .terminal f) ⟨rfl, rfl⟩)
  ⟨h.told, h.epoch, h.opened⟩

theorem dry_attempt : Dry t (attempt p now t) := by
  obtain ⟨f, -, h⟩ | ⟨u, h⟩ := attempt_cases p now t <;> rw [h]
  · exact .trans (u := t.count) (.of_told rfl rfl rfl) (dry_fail f)
  · exact .of_told (by simp [told, proceed]) rfl rfl

theorem dry_lose (f : Fault) : Dry t (lose p now t f) := by
  rcases lose_cases p now t f with ⟨-, hlose⟩ | ⟨-, hlose⟩ <;> rw [hlose]
  · have h := dry_enter p t.link.epoch (t := t) (s := .reconnecting) State.noConfusion
    exact ⟨h.told, h.epoch, h.opened⟩
  · exact dry_fail f

/-- **All but an open socket and its frames** lead to no news, and do
nothing to a connection that listens afterwards but maybe close it. -/
theorem dry_take (p : Plan ι) (now : Nat) (t : Turn ι) {s : Stimulus} (hopen : s ≠ .dialed (.ok ()))
    (hframe : ∀ epoch f, s ≠ .frame epoch f) :
    Dry t (t.take p now s) ∧ ((t.take p now s).link.activity.phase = .seated →
      t.link.activity.phase = .seated ∧
        ((t.take p now s).link.closed = false → t.take p now s = t)) := by
  have htook := took_take p now t s
  generalize t.take p now s = t' at htook
  cases htook with
  | ignored => exact ⟨.of_told rfl rfl rfl, fun h => ⟨h, fun _ => rfl⟩⟩
  | started h => exact ⟨(dry_enter p 0 State.noConfusion).trans dry_attempt, by simp⟩
  | opened deadline h hs => exact absurd hs hopen
  | lost f h => exact ⟨dry_lose f, by simp⟩
  | heard deadline f h hf hs => exact absurd hs (hframe _ _)
  | retried time h htime => exact ⟨dry_attempt, by simp⟩
  | closed hs =>
    refine ⟨.of_told rfl (epoch_shut _) (opened_shut _), fun h => ⟨?_, fun ho => ?_⟩⟩
    · exact activity_shut t.link ▸ h
    · exact absurd ho (by simp)
  | left h => exact ⟨.of_told rfl rfl rfl, fun h => by cases h⟩

/-! ## What a connection makes of an arrival -/

section arrival

variable {deadline : Nat} (h : t.link.activity = .listening deadline)

include h

/-- **An arrival of another epoch** is ignored. -/
theorem take_stale (he : epoch ≠ t.link.epoch) (a : Arrival) :
    t.take p now (a.stimulus epoch) = t := by
  cases a with
  | frame f => cases f <;> simp [Arrival.stimulus, take, h, he]
  | failed reason => simp [Arrival.stimulus, take, h, he]
  | ended => simp [Arrival.stimulus, take, h, he]

/-- A frame of the socket is heard. -/
theorem take_frame (p : Plan ι) (now : Nat) {f : Frame} (hf : f ≠ .close) :
    t.take p now (Arrival.stimulus t.link.epoch (.frame f)) = hear p now t t.link.epoch f := by
  cases f <;> first | exact absurd rfl hf | simp [Arrival.stimulus, take, h]

end arrival

end Turn

/-! ## The record of the handler -/

variable {readers readers' : List Reader} {cs : List (Callback ι)}

/-- Nothing changes for what was heard when a reader has more to read or
passes on more. -/
theorem Heard.mono (h : Heard p readers cs)
    (hreaders : ∀ (i : Nat) (r : Reader), readers[i]? = some r →
      ∃ r' : Reader, readers'[i]? = some r' ∧ r.passed ≤ r'.passed ∧
        ∀ n ≤ r.passed, r'.yielded.take n = r.yielded.take n) :
    Heard p readers' cs := by
  intro before epoch rest hcs
  obtain ⟨r, n, hr, hn, hrest⟩ := h before epoch rest hcs
  obtain ⟨r', hr', hpassed, hyielded⟩ := hreaders epoch r hr
  exact ⟨r', n, hr', Nat.le_trans hn hpassed, by rw [hrest, hyielded n hn]⟩

/-- What is told besides news ends what an epoch hears. -/
theorem Heard.other (h : Heard p readers cs) {c : Callback ι} (hc : c.isNews = false)
    (hopens : ∀ epoch, c.opens? = some epoch → ∃ r, readers[epoch]? = some r) :
    Heard p readers (cs ++ [c]) := by
  intro before epoch rest hcs
  obtain ⟨rfl, -, rfl⟩ | ⟨rest, rfl, htold⟩ := split_snoc hcs
  · obtain ⟨r, hr⟩ := hopens epoch rfl
    exact ⟨r, 0, hr, Nat.zero_le _, rfl⟩
  · obtain ⟨r, n, hr, hn, hrest⟩ := h before epoch rest htold
    refine ⟨r, n, hr, hn, ?_⟩
    rw [← hrest, List.takeWhile_append]
    split
    · next hlen => simp [hc, (List.takeWhile_prefix _).eq_of_length hlen]
    · rfl

/-- And so does more of it. -/
theorem Heard.dry (h : Heard p readers cs) {more : List (Callback ι)}
    (hmore : ∀ c ∈ more, c.isNews = false ∧ c.opens? = none) : Heard p readers (cs ++ more) := by
  induction more using List.reverseRecOn with
  | nil => rwa [List.append_nil]
  | append_singleton more c ih =>
    rw [← List.append_assoc]
    obtain ⟨hc, hopens⟩ := hmore c (by simp)
    refine (ih fun d hd => hmore d (by simp [hd])).other hc fun epoch he => ?_
    rw [hopens] at he
    cases he

/-- **News of the current epoch** is heard by it and by no other. -/
theorem Heard.news (h : Heard p readers cs) {before news : List (Callback ι)}
    (hcs : cs = before ++ .state .live epoch :: news) (hnews : ∀ c ∈ news, c.isNews = true)
    {c : Callback ι} (hc : c.isNews = true) {r : Reader} {n : Nat}
    (hr : readers[epoch]? = some r) (hn : n ≤ r.passed)
    (hmore : news ++ [c] = (r.yielded.take n).filterMap p.imageOf) :
    Heard p readers (cs ++ [c]) := by
  intro before' epoch' rest hcs'
  obtain ⟨-, -, rfl⟩ | ⟨rest, rfl, htold⟩ := split_snoc hcs'
  · cases hc
  by_cases hall : ∀ d ∈ rest, d.isNews = true
  · -- the epoch looked at is the current one
    obtain ⟨heq, rfl⟩ := last_unique (hcs ▸ htold) rfl rfl hnews hall
    cases heq
    refine ⟨r, n, hr, hn, ?_⟩
    rw [← hmore, List.takeWhile_append_of_pos hnews]
    simp [hc]
  · obtain ⟨d, hd, hother⟩ : ∃ d ∈ rest, d.isNews = false := by simpa using hall
    rw [takeWhile_append_of_neg hd hother]
    exact h before' epoch' rest htold

/-! ## Lines -/

namespace Line

theorem getElem?_receive (l : Line) (i j : Nat) (a : Arrival) :
    (l.receive i a).readers[j]? =
      l.readers[j]?.map fun r => if i = j then { r with yielded := r.yielded ++ [a] } else r :=
  List.getElem?_modify ..

/-- What a reader passes on is the next of what its socket yielded. -/
theorem of_pass? {l l' : Line} {i : Nat} (h : l.pass? i = some l') :
    ∃ r a, l.readers[i]? = some r ∧ r.yielded[r.passed]? = some a ∧
      l' = ⟨l.readers.set i { r with passed := r.passed + 1 }, l.queue ++ [(r.epoch, a)]⟩ := by
  unfold pass? at h
  cases hr : l.readers[i]? with
  | none => simp [hr] at h
  | some r =>
    simp only [hr, Option.map_eq_some_iff] at h
    obtain ⟨a, ha, rfl⟩ := h
    refine ⟨r, a, rfl, ?_, rfl⟩
    unfold Reader.next? at ha
    split at ha
    · cases ha
    · exact ha

/-- What is taken stood first in the queue. -/
theorem of_take? {l l' : Line} {x : Nat × Arrival} (h : l.take? = some (x, l')) :
    l.queue = x :: l'.queue ∧ l'.readers = l.readers := by
  unfold take? at h
  split at h
  · cases h
  · next heq =>
    cases h
    exact ⟨heq, rfl⟩

end Line

/-! ## Wires -/

/-- **What is kept along a wire.** -/
structure Accounted (p : Plan ι) (w : Wire ι) : Prop where
  /-- Every socket has an epoch of its own: the first the first, and so
  on. -/
  numbered : ∀ (i : Nat) (r : Reader), w.line.readers[i]? = some r →
    r.epoch = i ∧ r.passed ≤ r.yielded.length
  /-- There are as many as there were epochs. -/
  count : w.line.readers.length =
    if w.turn.link.opened then w.turn.link.epoch + 1 else w.turn.link.epoch
  /-- Nothing in the queue is of an epoch to come. -/
  tagged : ∀ x ∈ w.line.queue, x.1 < w.line.readers.length
  /-- Whoever listens has a socket. -/
  opened : w.turn.link.activity.phase = .seated → w.turn.link.opened = true
  heard : Heard p w.line.readers w.turn.told
  current : w.turn.link.activity.phase = .seated → w.turn.link.closed = false →
    Current p w.line w.turn.link.epoch w.turn.told

namespace Accounted

/-- A stimulus that is neither an open socket nor one of its frames. -/
theorem dry (h : Accounted p w) {s : Stimulus} (hopen : s ≠ .dialed (.ok ()))
    (hframe : ∀ epoch f, s ≠ .frame epoch f) : Accounted p (w.poke p now s) := by
  obtain ⟨⟨⟨cs, htold, hcs⟩, hepoch, hopened⟩, hseated⟩ :=
    Turn.dry_take p now w.turn hopen hframe
  rw [Wire.poke, Turn.follow_eq_take]
  generalize w.turn.take p now s = t' at htold hepoch hopened hseated
  refine ⟨h.numbered, ?_, h.tagged, fun hs => ?_, htold ▸ h.heard.dry hcs, fun hs ho => ?_⟩
  · rw [h.count, ← hepoch, ← hopened]
  · exact hopened.trans (h.opened (hseated hs).1)
  · obtain rfl := (hseated hs).2 ho
    exact h.current hs ho

/-- A socket yields something. -/
theorem receive (h : Accounted p w) (i : Nat) (a : Arrival) :
    Accounted p { w with line := w.line.receive i a } := by
  -- what the reader has passed on is not touched
  have hkept : ∀ (j : Nat) (r : Reader), w.line.readers[j]? = some r →
      ∃ r' : Reader, (w.line.receive i a).readers[j]? = some r' ∧ r'.epoch = r.epoch ∧
        r'.passed = r.passed ∧ r.yielded.length ≤ r'.yielded.length ∧
        ∀ n ≤ r.passed, r'.yielded.take n = r.yielded.take n := by
    intro j r hr
    refine ⟨_, by rw [Line.getElem?_receive, hr]; rfl, ?_⟩
    split
    · refine ⟨rfl, rfl, by simp, fun n hn => ?_⟩
      exact List.take_append_of_le_length (Nat.le_trans hn (h.numbered j r hr).2)
    · exact ⟨rfl, rfl, Nat.le_refl _, fun _ _ => rfl⟩
  refine ⟨fun j r' hr' => ?_, ?_, ?_, h.opened, h.heard.mono fun j r hr => ?_, fun hs ho => ?_⟩
  · cases hr : w.line.readers[j]? with
    | none => rw [Line.getElem?_receive, hr] at hr'; cases hr'
    | some r =>
      obtain ⟨r'', hr'', hepoch, hpassed, hlength, -⟩ := hkept j r hr
      obtain rfl := Option.some.inj (hr'.symm.trans hr'')
      obtain ⟨he, hp⟩ := h.numbered j r hr
      exact ⟨hepoch.trans he, by omega⟩
  · exact (List.length_modify ..).trans h.count
  · simpa [Line.receive] using h.tagged
  · obtain ⟨r', hr', -, hpassed, -, htake⟩ := hkept j r hr
    exact ⟨r', hr', Nat.le_of_eq hpassed.symm, htake⟩
  · obtain ⟨before, news, r, n, hcs, hnews, hr, hn, htold, hqueue⟩ := h.current hs ho
    obtain ⟨r', hr', -, hpassed, -, htake⟩ := hkept _ r hr
    refine ⟨before, news, r', n, hcs, hnews, hr', hpassed ▸ hn, ?_, ?_⟩
    · rw [htold, htake n hn]
    · rw [hpassed, htake _ (Nat.le_refl _)]
      exact hqueue

/-- A reader passes something on. -/
theorem pass (h : Accounted p w) {i : Nat} {l : Line} (hl : w.line.pass? i = some l) :
    Accounted p { w with line := l } := by
  obtain ⟨r, a, hr, ha, rfl⟩ := Line.of_pass? hl
  obtain ⟨hepoch, -⟩ := h.numbered i r hr
  have hi : i < w.line.readers.length := (List.getElem?_eq_some_iff.1 hr).1
  have hlt : r.passed < r.yielded.length := (List.getElem?_eq_some_iff.1 ha).1
  refine ⟨fun j r' hr' => ?_, ?_, fun x hx => ?_, h.opened, h.heard.mono fun j r' hr' => ?_,
    fun hs ho => ?_⟩
  · rw [List.getElem?_set] at hr'
    split at hr'
    · next hij =>
      cases Option.some.inj (by simpa [hi] using hr')
      exact ⟨hij ▸ hepoch, hlt⟩
    · exact h.numbered j r' hr'
  · simpa using h.count
  · rw [List.length_set]
    rcases List.mem_append.1 hx with hx | hx
    · exact h.tagged x hx
    · rw [List.mem_singleton.1 hx, hepoch]
      exact hi
  · rw [List.getElem?_set]
    split
    · next hij =>
      subst hij
      obtain rfl := Option.some.inj (hr.symm.trans hr')
      exact ⟨{ r with passed := r.passed + 1 }, by simp, Nat.le_succ _, fun _ _ => rfl⟩
    · exact ⟨r', hr', Nat.le_refl _, fun _ _ => rfl⟩
  · obtain ⟨before, news, r₀, n, hcs, hnews, hr₀, hn, htold, hqueue⟩ := h.current hs ho
    by_cases hij : i = w.turn.link.epoch
    · -- what the queue gains is what the reader of this epoch lets go
      subst hij
      obtain rfl := Option.some.inj (hr.symm.trans hr₀)
      refine ⟨before, news, { r with passed := r.passed + 1 }, n, hcs, hnews, by simp [hi],
        Nat.le_succ_of_le hn, htold, ?_⟩
      simp only [List.filter_append, List.map_append, hqueue]
      rw [List.take_add_one, ha, List.drop_append_of_le_length (by simp; omega)]
      simp [hepoch]
    · refine ⟨before, news, r₀, n, hcs, hnews, ?_, hn, htold, ?_⟩
      · rw [List.getElem?_set_ne hij]
        exact hr₀
      · have hother : ¬ r.epoch = w.turn.link.epoch := hepoch ▸ hij
        simpa [hother] using hqueue

/-- A socket opens. -/
theorem attach (h : Accounted p w) :
    Accounted p ⟨Turn.greet p now w.turn,
      w.line.attach (Turn.greet p now w.turn).link.epoch⟩ := by
  have hepoch : w.turn.advance.link.epoch = w.line.readers.length := h.count.symm
  have hgreet : (Turn.greet p now w.turn).link.epoch = w.line.readers.length :=
    Turn.epoch_greet.trans hepoch
  rw [hgreet]
  have hnew : (w.line.attach w.line.readers.length).readers[w.line.readers.length]? =
      some ⟨w.line.readers.length, [], 0⟩ := by simp [Line.attach]
  have hheard : Heard p (w.line.attach w.line.readers.length).readers w.turn.told :=
    h.heard.mono fun j r hr => by
      refine ⟨r, ?_, Nat.le_refl _, fun _ _ => rfl⟩
      exact (List.getElem?_append_left (List.getElem?_eq_some_iff.1 hr).1).trans hr
  have htold : w.turn.link.closed = false → (Turn.greet p now w.turn).told =
      w.turn.told ++ [.state .live w.line.readers.length] := fun ho =>
    hepoch ▸ Turn.told_greet ho
  refine ⟨fun j r hr => ?_, ?_, fun x hx => ?_, fun _ => Turn.opened_enter .., ?_, fun hs ho => ?_⟩
  · rcases Nat.lt_trichotomy j w.line.readers.length with hlt | rfl | hgt
    · exact h.numbered j r ((List.getElem?_append_left hlt).symm.trans hr)
    · obtain rfl := Option.some.inj (hnew.symm.trans hr)
      exact ⟨rfl, Nat.le_refl _⟩
    · have hj := (List.getElem?_eq_some_iff.1 hr).1
      simp only [Line.attach, List.length_append, List.length_singleton] at hj
      omega
  · have hopened : (Turn.greet p now w.turn).link.opened = true := Turn.opened_enter ..
    rw [if_pos hopened, hgreet]
    simp [Line.attach]
  · have hlt := h.tagged x hx
    simp only [Line.attach, List.length_append, List.length_singleton]
    omega
  · by_cases hc : w.turn.link.closed = true
    · have hsame : (Turn.greet p now w.turn).told = w.turn.told := by
        change (Turn.enter p w.turn.advance .live w.turn.advance.link.epoch).told = _
        rw [Turn.enter_of_closed (t := w.turn.advance) hc]
        rfl
      rw [hsame]
      exact hheard
    · rw [htold (by simpa using hc)]
      refine hheard.other rfl fun epoch he => ?_
      cases he
      exact ⟨_, hnew⟩
  · -- it is open now, so it was when the socket opened
    have hlead : Turn.Leads p w.turn (Turn.greet p now w.turn) := Turn.leads_greet
    have hopen : w.turn.link.closed = false := hlead.open_before ho
    rw [htold hopen, hgreet]
    refine ⟨w.turn.told, [], _, 0, rfl, by simp, hnew, Nat.le_refl _, rfl, ?_⟩
    -- whatever is in the queue is of an earlier epoch
    have hnone : w.line.queue.filter (·.1 == w.line.readers.length) = [] :=
      List.filter_eq_nil_iff.2 fun x hx => by
        have hlt := h.tagged x hx
        simp only [beq_iff_eq]
        omega
    simp [Line.attach, hnone]

/-- Something that is nothing to the handler leaves the queue. -/
theorem skip (h : Accounted p w) {epoch : Nat} {a : Arrival} {l : Line}
    (hl : w.line.take? = some ((epoch, a), l))
    (ha : epoch = w.turn.link.epoch → p.imageOf a = none) : Accounted p { w with line := l } := by
  obtain ⟨hqueue, hreaders⟩ := Line.of_take? hl
  refine ⟨hreaders ▸ h.numbered, hreaders ▸ h.count, fun x hx => ?_, h.opened,
    hreaders ▸ h.heard, fun hs ho => ?_⟩
  · rw [hreaders]
    exact h.tagged x (hqueue ▸ List.mem_cons_of_mem _ hx)
  · obtain ⟨before, news, r, n, hcs, hnews, hr, hn, htold, hqueued⟩ := h.current hs ho
    rw [hqueue] at hqueued
    by_cases he : epoch = w.turn.link.epoch
    · -- it counts as told, though nothing was
      subst he
      obtain ⟨hn', htake, hrest⟩ := next_of_drop (by simpa using hqueued)
      refine ⟨before, news, r, n + 1, hcs, hnews, by rw [hreaders]; exact hr, hn', ?_, hrest⟩
      rw [htake, List.filterMap_append, ← htold]
      simp [ha rfl]
    · refine ⟨before, news, r, n, hcs, hnews, by rw [hreaders]; exact hr, hn, htold, ?_⟩
      simpa [he] using hqueued

/-- **Something the handler hears of** leaves the queue and is told. -/
theorem hear (h : Accounted p w) {a : Arrival} {l : Line} {c : Callback ι}
    (hl : w.line.take? = some ((w.turn.link.epoch, a), l)) (hc : p.imageOf a = some c)
    (hs : w.turn.link.activity.phase = .seated) (deadline : Nat) :
    Accounted p
      ⟨Turn.deliver p (Turn.proceed w.turn (.listening deadline)) w.turn.link.epoch c, l⟩ := by
  obtain ⟨hqueue, hreaders⟩ := Line.of_take? hl
  have htagged : ∀ x ∈ l.queue, x.1 < l.readers.length := fun x hx => by
    rw [hreaders]
    exact h.tagged x (hqueue ▸ List.mem_cons_of_mem _ hx)
  by_cases hclosed : w.turn.link.closed = true
  · rw [Turn.deliver_of_closed (t := Turn.proceed w.turn (.listening deadline)) hclosed]
    exact ⟨hreaders ▸ h.numbered, hreaders ▸ h.count, htagged, fun _ => h.opened hs,
      hreaders ▸ h.heard, fun _ ho => absurd (hclosed.symm.trans ho) (by decide)⟩
  have hopen : w.turn.link.closed = false := by simpa using hclosed
  have hnews := isNews_of_imageOf hc
  obtain ⟨before, news, r, n, hcs, hall, hr, hn, htold, hqueued⟩ := h.current hs hopen
  rw [hqueue] at hqueued
  obtain ⟨hn', htake, hrest⟩ := next_of_drop (by simpa using hqueued)
  have hmore : news ++ [c] = (r.yielded.take (n + 1)).filterMap p.imageOf := by
    rw [htake, List.filterMap_append, ← htold]
    simp [hc]
  have htell : Turn.deliver p (Turn.proceed w.turn (.listening deadline)) w.turn.link.epoch c =
      Turn.tell p (Turn.proceed w.turn (.listening deadline)) c :=
    Turn.deliver_of_open (t := Turn.proceed w.turn (.listening deadline)) hopen c
  have htold' : (Turn.tell p (Turn.proceed w.turn (.listening deadline)) c).told =
      w.turn.told ++ [c] := Turn.told_tell ..
  rw [htell]
  refine ⟨hreaders ▸ h.numbered, ?_, htagged, fun _ => (Turn.opened_tell ..).trans (h.opened hs),
    ?_, fun _ _ => ?_⟩
  · rw [Turn.epoch_tell, Turn.opened_tell, hreaders]
    exact h.count
  · rw [htold', hreaders]
    exact h.heard.news hcs hall hnews hr hn' hmore
  · rw [htold', Turn.epoch_tell]
    refine ⟨before, news ++ [c], r, n + 1, by simp [hcs, Turn.proceed], fun d hd => ?_,
      hreaders ▸ hr, hn', hmore, hrest⟩
    rcases List.mem_append.1 hd with hd | hd
    · exact hall d hd
    · exact List.mem_singleton.1 hd ▸ hnews

/-- The connection takes something from the queue. -/
theorem take (h : Accounted p w) {epoch deadline : Nat} {a : Arrival} {l : Line}
    (hact : w.turn.link.activity = .listening deadline)
    (hl : w.line.take? = some ((epoch, a), l)) :
    Accounted p (Wire.poke p now { w with line := l } (a.stimulus epoch)) := by
  have hseated : w.turn.link.activity.phase = .seated := hact ▸ rfl
  by_cases he : epoch = w.turn.link.epoch
  · subst he
    by_cases hloss : a.isLoss = true
    · obtain ⟨f, hf⟩ := stimulus_of_isLoss hloss w.turn.link.epoch
      rw [hf]
      exact (h.skip hl fun _ => imageOf_of_isLoss hloss).dry nofun nofun
    obtain ⟨f, rfl, hf⟩ := frame_of_not_isLoss hloss
    rw [Wire.poke, Turn.follow_eq_take]
    have hheard := (Turn.take_frame hact p now hf).trans (Turn.hear_eq hf)
    simp only at hheard
    rw [hheard]
    split
    · next c hc => exact h.hear hl hc hseated _
    · next hnone =>
      have hskip := h.skip hl fun _ => hnone
      exact ⟨hskip.numbered, hskip.count, hskip.tagged, fun _ => h.opened hseated, hskip.heard,
        fun _ ho => hskip.current hseated ho⟩
  · rw [Wire.poke, Turn.follow_eq_take]
    have hsame : ({ w with line := l } : Wire ι).turn.take p now (a.stimulus epoch) = w.turn :=
      Turn.take_stale hact he a
    rw [hsame]
    exact h.skip hl fun he' => absurd he' he

/-- **Whatever happens, the books are kept.** -/
theorem step (h : Accounted p w) (now : Nat) (e : Happening) : Accounted p (w.step p now e) := by
  cases e with
  | start => exact h.dry nofun nofun
  | refused f => exact h.dry nofun nofun
  | opened =>
    simp only [Wire.step]
    split
    · next deadline hact =>
      have hgreet : w.turn.follow p now (.dialed (.ok ())) = Turn.greet p now w.turn := by
        rw [Turn.follow_eq_take]
        simp [Turn.take, hact]
      rw [Wire.poke, hgreet]
      exact h.attach
    · exact h
  | yields i a => exact h.receive i a
  | passes i =>
    simp only [Wire.step]
    cases hl : w.line.pass? i with
    | none => exact h
    | some l => exact h.pass hl
  | takes =>
    simp only [Wire.step]
    split
    · next deadline epoch a l hact hl => exact h.take hact hl
    · exact h
  | alarm => exact h.dry nofun nofun
  | close => exact h.dry nofun nofun
  | leave => exact h.dry nofun nofun

end Accounted

theorem Wire.run_snoc (es : List (Nat × Happening)) (e : Nat × Happening) :
    Wire.run p (es ++ [e]) = (Wire.run p es).step p e.1 e.2 := by
  rw [Wire.run, List.foldl_append]
  rfl

/-- What happens along a wire is a course to its connection. -/
theorem course_of_run (p : Plan ι) (es : List (Nat × Happening)) :
    ∃ stimuli, (Wire.run p es).turn = course p stimuli := by
  induction es using List.reverseRecOn with
  | nil => exact ⟨[], rfl⟩
  | append_singleton es e ih =>
    obtain ⟨stimuli, hcourse⟩ := ih
    have hpoke : ∀ (w : Wire ι) (s : Stimulus), w.turn = course p stimuli →
        ∃ stimuli, (w.poke p e.1 s).turn = course p stimuli := fun w s hw =>
      ⟨stimuli ++ [(e.1, s)], by rw [course_snoc, ← Turn.follow_eq_take, ← hw]; rfl⟩
    rw [Wire.run_snoc]
    generalize Wire.run p es = w at hcourse
    cases e.2 with
    | start => exact hpoke w _ hcourse
    | refused f => exact hpoke w _ hcourse
    | opened =>
      simp only [Wire.step]
      split
      · exact hpoke w _ hcourse
      · exact ⟨stimuli, hcourse⟩
    | yields i a => exact ⟨stimuli, hcourse⟩
    | passes i => exact ⟨stimuli, hcourse⟩
    | takes =>
      simp only [Wire.step]
      split
      · exact hpoke _ _ hcourse
      · exact ⟨stimuli, hcourse⟩
    | alarm => exact hpoke w _ hcourse
    | close => exact hpoke w _ hcourse
    | leave => exact hpoke w _ hcourse

/-- **The books are kept in every run.** -/
theorem accounted_run (p : Plan ι) (es : List (Nat × Happening)) : Accounted p (Wire.run p es) := by
  induction es using List.reverseRecOn with
  | nil =>
    refine ⟨by simp [Wire.run, Wire.fresh, Line.idle], rfl,
      by simp [Wire.run, Wire.fresh, Line.idle], nofun, fun before epoch rest h => ?_, nofun⟩
    simp [Wire.run, Wire.fresh, Turn.of, Turn.told, calls] at h
  | append_singleton es e ih =>
    rw [Wire.run_snoc]
    exact ih.step e.1 e.2

/-! ## Isolation -/

/-- **What ends a socket** is silence, its loss, or that the connection is
closed, and nothing else; least of all a frame that says nothing. -/
theorem lasting (w : Wire ι) {deadline : Nat} (hact : w.turn.link.activity = .listening deadline)
    (now : Nat) (e : Happening) :
    (w.step p now e).turn.link.activity.phase = .seated ∨
      (e = .alarm ∧ deadline ≤ now) ∨ (e = .leave ∧ w.turn.link.closed = true) ∨
      ∃ a l, e = .takes ∧ w.line.take? = some ((w.turn.link.epoch, a), l) ∧ a.isLoss = true := by
  have hseated : w.turn.link.activity.phase = .seated := hact ▸ rfl
  -- what does not fit a connection that listens is ignored
  have hignored : ∀ s, w.turn.take p now s = w.turn →
      (w.poke p now s).turn.link.activity.phase = .seated := fun s h => by
    rw [Wire.poke, Turn.follow_eq_take, h]
    exact hseated
  cases e with
  | start => exact .inl (hignored _ (by simp [Turn.take, hact]))
  | refused f => exact .inl (hignored _ (by simp [Turn.take, hact]))
  | opened => exact .inl (by simpa [Wire.step, hact] using hseated)
  | yields i a => exact .inl hseated
  | passes i => exact .inl hseated
  | takes =>
    cases hl : w.line.take? with
    | none => exact .inl (by simpa [Wire.step, hact, hl] using hseated)
    | some x =>
      obtain ⟨⟨epoch, a⟩, l⟩ := x
      by_cases he : epoch = w.turn.link.epoch
      · by_cases hloss : a.isLoss = true
        · exact .inr (.inr (.inr ⟨a, l, rfl, he ▸ rfl, hloss⟩))
        · obtain ⟨f, rfl, hf⟩ := frame_of_not_isLoss hloss
          simp only [Wire.step, hact, hl, Wire.poke, Turn.follow_eq_take, he]
          rw [Turn.take_frame hact p now hf]
          exact .inl (Turn.phase_hear hf)
      · simp only [Wire.step, hact, hl, Wire.poke, Turn.follow_eq_take]
        rw [Turn.take_stale hact he]
        exact .inl hseated
  | alarm =>
    by_cases hdue : deadline ≤ now
    · exact .inr (.inl ⟨rfl, hdue⟩)
    · exact .inl (hignored _ (by simp [Turn.take, Turn.wake, hact, hdue]))
  | close =>
    rw [Wire.step, Wire.poke, Turn.follow_eq_take, take_close]
    exact .inl (activity_shut w.turn.link ▸ hseated)
  | leave =>
    by_cases hc : w.turn.link.closed = true
    · exact .inr (.inr (.inl ⟨rfl, hc⟩))
    · exact .inl (hignored _ (by simp [Turn.take, hc]))

/-- **What keeps the sockets of a wire apart.** -/
structure Isolated (p : Plan ι) (w : Wire ι) : Prop where
  /-- Sockets have their epochs in the order in which they opened, each its
  own. -/
  own : ∀ (i : Nat) (r : Reader), w.line.readers[i]? = some r → r.epoch = i
  /-- Between the opening of an epoch and the next state, the handler is
  told what the first arrivals of the socket of that epoch are to it, in
  order and once each. -/
  heard : Heard p w.line.readers w.turn.told
  /-- While the socket is open these are all that its reader has passed on,
  but for what is still in the queue. -/
  current : w.turn.link.activity.phase = .seated → w.turn.link.closed = false →
    Current p w.line w.turn.link.epoch w.turn.told
  /-- No frame of any socket ends the current one but its close. -/
  lasting : ∀ deadline, w.turn.link.activity = .listening deadline → ∀ now e,
    (w.step p now e).turn.link.activity.phase = .seated ∨
      (e = .alarm ∧ deadline ≤ now) ∨ (e = .leave ∧ w.turn.link.closed = true) ∨
      ∃ a l, e = .takes ∧ w.line.take? = some ((w.turn.link.epoch, a), l) ∧ a.isLoss = true

/-- **Every epoch hears its own socket, and no other**, whatever happens
along the wire and in whatever order. -/
theorem isolated_run (p : Plan ι) (es : List (Nat × Happening)) : Isolated p (Wire.run p es) where
  own i r hr := ((accounted_run p es).numbered i r hr).1
  heard := (accounted_run p es).heard
  current := (accounted_run p es).current
  lasting _ hact := lasting _ hact

end Connection

end Telemetry
