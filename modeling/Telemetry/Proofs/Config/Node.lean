import Mathlib.Data.List.TakeWhile
import Telemetry.Config.Node
import Telemetry.Proofs.Json.Decimal
import Telemetry.Proofs.Text.Blank
import Telemetry.Proofs.Time.Stamp
/-!
# Config — nodes in their short form

A node that is read from its short form has a tag without blanks around it and
without a `$`. That is what its own short form takes: the tag ends at the first `$`,
and the number behind it is read whatever it looks like, so the node is read back
from how it is displayed (`Normal.again`). What is no node is said part by part:
what is behind the first `$` is no number of a shard, or nothing but blanks is before
it (`Unreadable`).
-/

namespace Telemetry

namespace Config

open Text

/-! ## Numbers of shards -/

/-- **The number of a shard as it may be written**: decimal digits after an optional
plus, with a value below `2 ^ 32`. -/
def ShardText (cs : List Char) (n : Nat) : Prop :=
  ∃ ds, (cs = ds ∨ cs = '+' :: ds) ∧ Json.Digits ds ∧ n = Nat.ofDigitChars 10 ds 0 ∧ n < 2 ^ 32

variable {cs ds front digits : List Char} {n : Nat} {s s' : String} {l l' : Location}

theorem readNatural_of_digits (h : Json.Digits ds) :
    readNatural ds = some (Nat.ofDigitChars 10 ds 0) ∧
      readNatural ('+' :: ds) = some (Nat.ofDigitChars 10 ds 0) := by
  have hread : (if !ds.isEmpty && ds.all Char.isDigit then some (digitsValue ds) else none) =
      some (Nat.ofDigitChars 10 ds 0) := by
    rw [if_pos (by simpa [h.ne_nil] using h.digit), Time.Stamp.digitsValue_eq]
  refine ⟨?_, hread⟩
  unfold readNatural
  dsimp only
  split
  · cases h.digit '+' List.mem_cons_self
  · exact hread

theorem readNatural_eq_some_iff : readNatural cs = some n ↔
    ∃ ds, (cs = ds ∨ cs = '+' :: ds) ∧ Json.Digits ds ∧ n = Nat.ofDigitChars 10 ds 0 := by
  constructor
  · intro h
    have hread : ∀ ds : List Char,
        (if !ds.isEmpty && ds.all Char.isDigit then some (digitsValue ds) else none) = some n →
          Json.Digits ds ∧ n = Nat.ofDigitChars 10 ds 0 := by
      intro ds hds
      split at hds
      · next hdigits =>
        rw [Bool.and_eq_true, Bool.not_eq_true', List.isEmpty_eq_false_iff, List.all_eq_true]
          at hdigits
        exact ⟨⟨hdigits.2, hdigits.1⟩,
          (Option.some.inj hds).symm.trans (Time.Stamp.digitsValue_eq ds)⟩
      · cases hds
    unfold readNatural at h
    dsimp only at h
    split at h
    · exact ⟨_, .inr rfl, hread _ h⟩
    · exact ⟨_, .inl rfl, hread _ h⟩
  · rintro ⟨ds, rfl | rfl, hds, rfl⟩
    · exact (readNatural_of_digits hds).1
    · exact (readNatural_of_digits hds).2

/-- **Numbers of shards are read as they may be written.** -/
theorem readShard_eq_some_iff : readShard cs = some n ↔ ShardText cs n := by
  rw [readShard, Option.filter_eq_some_iff, readNatural_eq_some_iff, decide_eq_true_eq]
  constructor
  · rintro ⟨⟨ds, hcs, hds, hn⟩, hsmall⟩
    exact ⟨ds, hcs, hds, hn, hsmall⟩
  · rintro ⟨ds, hcs, hds, hn, hsmall⟩
    exact ⟨⟨ds, hcs, hds, hn⟩, hsmall⟩

theorem readShard_toDigits (h : n < 2 ^ 32) : readShard (Nat.toDigits 10 n) = some n :=
  readShard_eq_some_iff.2
    ⟨_, .inl rfl, .of_toDigits n, Nat.ofDigitChars_ten_toDigits.symm, h⟩

/-! ## Nodes -/

/-- What is before the first `$`, and what follows it. -/
theorem split_of_notMem (h : '$' ∉ front) (rest : List Char) :
    (front ++ '$' :: rest).takeWhile (· != '$') = front ∧
      (front ++ '$' :: rest).dropWhile (· != '$') = '$' :: rest := by
  have hfront : ∀ c ∈ front, (c != '$') = true := fun c hc =>
    bne_iff_ne.2 fun heq => h (heq ▸ hc)
  rw [List.takeWhile_append_of_pos hfront, List.dropWhile_append_of_pos hfront]
  exact ⟨by simp, rfl⟩

/-- What the text before a number, or without one, is read as. -/
def readTag (s : String) (front : List Char) (shard : Option Nat) : Except Problem Location :=
  if (trim front).isEmpty then .error (.emptyTag s) else .ok ⟨String.ofList (trim front), shard⟩

theorem readTag_of_ne_nil (h : trim front ≠ []) (s : String) (shard : Option Nat) :
    readTag s front shard = .ok ⟨String.ofList (trim front), shard⟩ :=
  if_neg (by simpa using h)

theorem readTag_of_eq_nil (h : trim front = []) (s : String) (shard : Option Nat) :
    readTag s front shard = .error (.emptyTag s) :=
  if_pos (by simpa using h)

/-- Of a tag nothing but blanks makes none. -/
theorem readTag_eq_error_iff {shard : Option Nat} :
    (∃ p, readTag s front shard = .error p) ↔ ∀ c ∈ front, isBlank c = true := by
  rw [← trim_eq_nil_iff]
  by_cases h : trim front = []
  · exact ⟨fun _ => h, fun _ => ⟨_, readTag_of_eq_nil h s shard⟩⟩
  · rw [readTag_of_ne_nil h]
    exact ⟨nofun, fun hnil => absurd hnil h⟩

theorem isEmpty_ofList (cs : List Char) : (String.ofList cs).isEmpty = cs.isEmpty := by
  rw [Bool.eq_iff_iff, String.isEmpty_iff, String.ofList_eq_empty_iff, List.isEmpty_iff]

/-- **A text without a `$`** is a tag. -/
theorem readNode_plain (h : '$' ∉ s.toList) : readNode s = readTag s s.toList none := by
  have hall : ∀ c ∈ s.toList, (c != '$') = true := fun c hc =>
    bne_iff_ne.2 fun heq => h (heq ▸ hc)
  have htake : s.toList.takeWhile (· != '$') = s.toList := List.takeWhile_eq_self_iff.2 hall
  have hdrop : s.toList.dropWhile (· != '$') = [] := List.dropWhile_eq_nil_iff.2 hall
  unfold readNode readTag
  simp only [htake, hdrop, isEmpty_ofList]

/-- **Any other** is a tag and a number, which is looked at first. -/
theorem readNode_shard (hs : s.toList = front ++ '$' :: digits) (h : '$' ∉ front) :
    readNode s = (readShard digits).elim (.error (.badShard s)) fun n =>
      readTag s front (some n) := by
  obtain ⟨htake, hdrop⟩ := split_of_notMem h digits
  unfold readNode readTag
  simp only [hs, htake, hdrop, isEmpty_ofList]
  cases readShard digits <;> rfl

/-- Every text is one or the other. -/
theorem exists_front (s : String) : '$' ∉ s.toList ∨
    ∃ front digits, s.toList = front ++ '$' :: digits ∧ '$' ∉ front := by
  by_cases h : '$' ∈ s.toList
  · exact .inr (List.eq_append_cons_of_mem h)
  · exact .inl h

/-- **A node that has a short form.** -/
structure Normal (l : Location) : Prop where
  named : l.nodeTag ≠ ""
  trimmed : Trimmed l.nodeTag.toList
  plain : '$' ∉ l.nodeTag.toList
  small : ∀ n ∈ l.shardNumber, n < 2 ^ 32

/-- **Its short form is how it is displayed.** -/
theorem Normal.again (h : Normal l) : readNode l.display = .ok l := by
  obtain ⟨tag, shard⟩ := l
  have htrim : trim tag.toList = tag.toList := h.trimmed.trim_eq
  have hnamed : trim tag.toList ≠ [] := fun hnil =>
    h.named (String.toList_eq_nil_iff.1 (htrim.symm.trans hnil))
  cases shard with
  | none =>
    have hread := readNode_plain (s := tag) h.plain
    rw [readTag_of_ne_nil hnamed, htrim, String.ofList_toList] at hread
    exact hread
  | some n =>
    have htext : (tag ++ "$" ++ toString n).toList = tag.toList ++ '$' :: Nat.toDigits 10 n := by
      simp [Nat.toString_eq_repr, Nat.toList_repr]
    have hread := readNode_shard htext h.plain
    rw [readShard_toDigits (h.small n rfl), Option.elim_some,
      readTag_of_ne_nil hnamed, htrim, String.ofList_toList] at hread
    exact hread

/-- **What is read is normal.** -/
theorem normal_of_readNode (h : readNode s = .ok l) : Normal l := by
  have hnormal : ∀ {front : List Char} {shard : Option Nat}, '$' ∉ front →
      (∀ n ∈ shard, n < 2 ^ 32) → readTag s front shard = .ok l → Normal l := by
    intro front shard hplain hsmall htag
    by_cases hne : trim front = []
    · rw [readTag_of_eq_nil hne] at htag
      cases htag
    · rw [readTag_of_ne_nil hne] at htag
      obtain rfl := Except.ok.inj htag
      refine ⟨fun hempty => hne (String.ofList_eq_empty_iff.1 hempty), ?_, ?_, hsmall⟩
      · rw [String.toList_ofList]
        exact trimmed_trim front
      · rw [String.toList_ofList]
        exact fun hmem => hplain (mem_of_mem_trim hmem)
  rcases exists_front s with hplain | ⟨front, digits, hs, hfront⟩
  · rw [readNode_plain hplain] at h
    exact hnormal hplain (fun n hn => by cases hn) h
  · rw [readNode_shard hs hfront] at h
    cases hshard : readShard digits with
    | none =>
      rw [hshard] at h
      cases h
    | some n =>
      rw [hshard] at h
      obtain ⟨ds, -, -, -, hsmall⟩ := readShard_eq_some_iff.1 hshard
      refine hnormal hfront (fun m hm => ?_) h
      obtain rfl := Option.some.inj hm
      exact hsmall

/-- **A text that is no node**: behind its first `$` there is no number of a shard, or
there are only blanks before it, or in the whole of a text without one. -/
def Unreadable (s : String) : Prop :=
  ('$' ∉ s.toList ∧ ∀ c ∈ s.toList, isBlank c = true) ∨
    ∃ front digits, s.toList = front ++ '$' :: digits ∧ '$' ∉ front ∧
      ((∀ n, ¬ ShardText digits n) ∨ ∀ c ∈ front, isBlank c = true)

theorem readNode_eq_error_iff : (∃ p, readNode s = .error p) ↔ Unreadable s := by
  rcases exists_front s with hplain | ⟨front, digits, hs, hfront⟩
  · have hunreadable : Unreadable s ↔ ∀ c ∈ s.toList, isBlank c = true := by
      refine ⟨?_, fun h => .inl ⟨hplain, h⟩⟩
      rintro (⟨-, h⟩ | ⟨front, digits, hs, -⟩)
      · exact h
      · exact absurd (hs ▸ List.mem_append_right _ List.mem_cons_self) hplain
    rw [hunreadable, readNode_plain hplain, readTag_eq_error_iff]
  · have hunreadable : Unreadable s ↔
        (∀ n, ¬ ShardText digits n) ∨ ∀ c ∈ front, isBlank c = true := by
      refine ⟨?_, fun h => .inr ⟨front, digits, hs, hfront, h⟩⟩
      rintro (⟨hplain, -⟩ | ⟨front', digits', hs', hfront', h⟩)
      · exact absurd (hs ▸ List.mem_append_right _ List.mem_cons_self) hplain
      · -- the first sign is in one place
        have htake := (split_of_notMem hfront digits).1
        have hdrop := (split_of_notMem hfront digits).2
        rw [← hs, hs'] at htake hdrop
        obtain rfl : front' = front := (split_of_notMem hfront' digits').1.symm.trans htake
        obtain rfl : digits' = digits :=
          List.tail_eq_of_cons_eq ((split_of_notMem hfront' digits').2.symm.trans hdrop)
        exact h
    rw [hunreadable, readNode_shard hs hfront]
    cases hshard : readShard digits with
    | none =>
      have hnone : ∀ n, ¬ ShardText digits n := fun n hn => by
        rw [readShard_eq_some_iff.2 hn] at hshard
        cases hshard
      exact ⟨fun _ => .inl hnone, fun _ => ⟨_, rfl⟩⟩
    | some n =>
      have hsome : ¬ ∀ n, ¬ ShardText digits n := fun hnone =>
        hnone n (readShard_eq_some_iff.1 hshard)
      rw [Option.elim_some, readTag_eq_error_iff]
      exact (or_iff_right hsome).symm

/-- **What a text is read as.** -/
structure Reading (s : String) : Prop where
  /-- A node that is read has a tag, without blanks around it and without a `$`, -/
  normal : ∀ l, readNode s = .ok l → l.nodeTag ≠ "" ∧ Trimmed l.nodeTag.toList ∧
    '$' ∉ l.nodeTag.toList
  /-- and is read back from how it is displayed. -/
  again : ∀ l, readNode s = .ok l → readNode l.display = .ok l
  /-- No other node that is read is displayed so. -/
  apart : ∀ s' l l', readNode s = .ok l → readNode s' = .ok l' → l.display = l'.display → l = l'
  fails : (∃ p, readNode s = .error p) ↔ Unreadable s

/-- **Every text is read as a node with a short form, or is none.** -/
theorem reading_readNode (s : String) : Reading s where
  normal l h := ⟨(normal_of_readNode h).named, (normal_of_readNode h).trimmed,
    (normal_of_readNode h).plain⟩
  again l h := (normal_of_readNode h).again
  apart s' l l' h h' hdisplay := by
    have hagain := (normal_of_readNode h).again
    rw [hdisplay, (normal_of_readNode h').again] at hagain
    exact (Except.ok.inj hagain).symm
  fails := readNode_eq_error_iff

example : ["B$2", " B $+002", "B$ 2", "$2"].map (fun s => (readNode s).toOption) =
    [some ⟨"B", some 2⟩, some ⟨"B", some 2⟩, none, none] := by decide +kernel

end Config

end Telemetry
