import Telemetry.Text.Blank
/-!
# Text — texts without blanks around them

Trimming takes blanks off both ends and nothing else (`exists_trim`), until there is
none at either (`trimmed_trim`), so that it need not be done twice
(`Trimmed.trim_eq`). Nothing is left exactly of blanks.
-/

namespace Telemetry

namespace Text

variable {cs : List Char}

/-- **No blank stands at either end.** -/
structure Trimmed (cs : List Char) : Prop where
  head : ∀ c ∈ cs.head?, isBlank c = false
  last : ∀ c ∈ cs.getLast?, isBlank c = false

/-- Nothing is taken off a text that is trimmed. -/
theorem Trimmed.trim_eq (h : Trimmed cs) : trim cs = cs := by
  have hdrop : ∀ ds : List Char, (∀ c ∈ ds.head?, isBlank c = false) →
      ds.dropWhile isBlank = ds := by
    rintro (_ | ⟨c, rest⟩) hds
    · rfl
    · rw [List.dropWhile_cons_of_neg (by simp [hds c rfl])]
  have hfront : trimFront cs = cs := hdrop cs h.head
  have hback := hdrop cs.reverse fun c hc => h.last c (List.head?_reverse ▸ hc)
  rw [trim, hfront, hback, List.reverse_reverse]

/-- What is taken off the end. -/
theorem exists_trimFront (cs : List Char) :
    ∃ after, trimFront cs = trim cs ++ after ∧ ∀ c ∈ after, isBlank c = true := by
  refine ⟨((trimFront cs).reverse.takeWhile isBlank).reverse, ?_, fun c hc => ?_⟩
  · rw [trim, ← List.reverse_append, List.takeWhile_append_dropWhile, List.reverse_reverse]
  · exact List.all_eq_true.1 List.all_takeWhile c (List.mem_reverse.1 hc)

/-- **Only blanks are taken off.** -/
theorem exists_trim (cs : List Char) : ∃ before after, cs = before ++ trim cs ++ after ∧
    (∀ c ∈ before, isBlank c = true) ∧ ∀ c ∈ after, isBlank c = true := by
  obtain ⟨after, hafter, hblank⟩ := exists_trimFront cs
  refine ⟨cs.takeWhile isBlank, after, ?_, fun c hc => List.all_eq_true.1 List.all_takeWhile c hc,
    hblank⟩
  rw [List.append_assoc, ← hafter, trimFront, List.takeWhile_append_dropWhile]

/-- **All of them are.** -/
theorem trimmed_trim (cs : List Char) : Trimmed (trim cs) where
  head c hc := by
    obtain ⟨after, hafter, -⟩ := exists_trimFront cs
    refine head?_trimFront cs c ?_
    rw [hafter, List.head?_append, hc, Option.some_or]
  last c hc := by
    have hback := List.head?_dropWhile_not isBlank (trimFront cs).reverse
    rw [trim, List.getLast?_reverse] at hc
    rw [hc] at hback
    simpa using hback

theorem mem_of_mem_trim {c : Char} (h : c ∈ trim cs) : c ∈ cs := by
  obtain ⟨before, after, hcs, -⟩ := exists_trim cs
  rw [hcs]
  exact List.mem_append_left _ (List.mem_append_right _ h)

/-- Of blanks nothing is left, and of no other text. -/
theorem trim_eq_nil_iff : trim cs = [] ↔ ∀ c ∈ cs, isBlank c = true := by
  obtain ⟨before, after, hcs, hbefore, hafter⟩ := exists_trim cs
  constructor
  · intro h c hc
    rw [hcs, h, List.append_nil] at hc
    exact (List.mem_append.1 hc).elim (hbefore c) (hafter c)
  · intro h
    cases htrim : trim cs with
    | nil => rfl
    | cons c rest =>
      have hblank := h c (mem_of_mem_trim (htrim ▸ List.mem_cons_self))
      have hkept := (trimmed_trim cs).head c (by rw [htrim]; rfl)
      rw [hblank] at hkept
      cases hkept

end Text

end Telemetry
