import Telemetry.Text.Split
/-!
# Text — parts between separators

A text is cut at each separator and nowhere else: what stands on either side of one
is cut by itself (`splitAt_append`).
-/

namespace Telemetry

namespace Text

variable {sep : Char} {cs : List Char}

theorem splitAt_ne_nil (sep : Char) (cs : List Char) : splitAt sep cs ≠ [] := by
  cases cs with
  | nil => simp [splitAt]
  | cons c rest =>
    unfold splitAt
    split
    · simp
    · split <;> simp

/-- A character that is no separator belongs to the first part. -/
theorem splitAt_cons_of_ne {c : Char} (h : c ≠ sep) (rest : List Char) :
    ∃ part parts, splitAt sep rest = part :: parts ∧
      splitAt sep (c :: rest) = (c :: part) :: parts := by
  obtain ⟨part, parts, hrest⟩ := List.exists_cons_of_ne_nil (splitAt_ne_nil sep rest)
  exact ⟨part, parts, hrest, by rw [splitAt, if_neg h, hrest]⟩

/-- **Both sides of a separator** are cut by themselves. -/
theorem splitAt_append (sep : Char) (cs rest : List Char) :
    splitAt sep (cs ++ sep :: rest) = splitAt sep cs ++ splitAt sep rest := by
  induction cs with
  | nil => simp [splitAt]
  | cons c cs ih =>
    by_cases hc : c = sep
    · rw [List.cons_append, splitAt, if_pos hc, splitAt, if_pos hc, ih, List.cons_append]
    · obtain ⟨part, parts, hcs, hcons⟩ := splitAt_cons_of_ne hc cs
      rw [hcons, List.cons_append, splitAt, if_neg hc, ih, hcs]
      rfl

/-- A text without separators is one part. -/
theorem splitAt_of_notMem (h : sep ∉ cs) : splitAt sep cs = [cs] := by
  induction cs with
  | nil => rfl
  | cons c cs ih =>
    rw [List.mem_cons, not_or] at h
    rw [splitAt, if_neg fun heq => h.1 heq.symm, ih h.2]

end Text

end Telemetry
