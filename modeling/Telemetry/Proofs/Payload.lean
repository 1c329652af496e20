import Telemetry.Payload
import Telemetry.Proofs.Json.Shape
/-!
# Payloads — frames that are read back

An envelope with some results, in a frame with blanks around it, is decoded as
these results (`decode_envelope`). What a single result is does not matter, as
long as it is read from what it is written as.
-/

namespace Telemetry

/-! ## Blanks around a frame -/

namespace Text

/-- **Blanks at both ends are dropped**, and nothing else is if what is between
them begins and ends with something else. -/
theorem trim_append {before after inner : List Char} {first last : Char}
    (hbefore : ∀ c ∈ before, isBlank c = true) (hafter : ∀ c ∈ after, isBlank c = true)
    (hfirst : isBlank first = false) (hlast : isBlank last = false) :
    trim (before ++ (first :: (inner ++ [last]) ++ after)) = first :: (inner ++ [last]) := by
  have hfront : trimFront (before ++ (first :: (inner ++ [last]) ++ after)) =
      first :: (inner ++ [last]) ++ after := by
    rw [trimFront, List.dropWhile_append_of_pos hbefore]
    exact List.dropWhile_cons_of_neg (by simp [hfirst])
  have hback : (first :: (inner ++ [last]) ++ after).reverse.dropWhile isBlank =
      (first :: (inner ++ [last])).reverse := by
    rw [List.reverse_append,
      List.dropWhile_append_of_pos fun c hc => hafter c (List.mem_reverse.1 hc),
      ← List.cons_append, List.reverse_append, List.reverse_singleton, List.singleton_append]
    exact List.dropWhile_cons_of_neg (by simp [hlast])
  rw [trim, hfront, hback, List.reverse_reverse]

end Text

namespace Payload

open Json

variable {α : Type} {read : Value → Except ShapeError α}

/-- **The text of an envelope**, with some space after the colon. -/
def envelope (gap : List Char) (results : List Value) : List Char :=
  '\x7b' :: (writeText "Results" ++ ':' :: (gap ++ ((Value.list results).write ++ ['\x7d'])))

/-- An envelope begins and ends with a brace. -/
theorem exists_envelope (gap : List Char) (results : List Value) :
    ∃ inner, envelope gap results = '\x7b' :: (inner ++ ['\x7d']) :=
  ⟨writeText "Results" ++ ':' :: (gap ++ (Value.list results).write), by simp [envelope]⟩

/-- How deep an envelope nests. -/
def envelopeDepth (results : List Value) : Nat := (Value.object [("Results", .list results)]).depth

/-- An envelope is read as an object of its results. -/
theorem ofText_envelope {gap : List Char} (hgap : ∀ c ∈ gap, isSpace c = true)
    {results : List Value} (hresults : ∀ v ∈ results, v.Exact)
    (hdepth : envelopeDepth results ≤ maxDepth) :
    Value.ofText (String.ofList (envelope gap results)) =
      .ok (.object [("Results", .list (results.map Value.held))]) := by
  obtain ⟨d, hreads, hholds⟩ := (Value.Exact.list hresults).readsAs
  have henvelope : ReadsAs (envelope gap results)
      (.object [("Results", (Value.list results).held)]) (envelopeDepth results) := by
    refine ⟨_, (hreads.lastMember "Results" hgap).object, fun k hk => ?_⟩
    obtain ⟨k, rfl⟩ := Nat.exists_eq_add_of_le' (Nat.le_trans (Nat.le_add_left 1 _) hk)
    have hlist : d.toValue k = .ok (Value.list results).held :=
      hholds k (by simpa [envelopeDepth, Value.depth, fieldsDepth] using hk)
    rw [Document.toValue, fieldsToValue_cons "Results" hlist rfl]
    rfl
  rw [henvelope.ofText hdepth, Value.held_list]

/-- **An envelope is decoded as its results**, whatever space is in it and
whatever blanks are around it, if it does not nest too deep. -/
theorem decode_envelope {before gap after : List Char}
    (hbefore : ∀ c ∈ before, Text.isBlank c = true) (hgap : ∀ c ∈ gap, isSpace c = true)
    (hafter : ∀ c ∈ after, Text.isBlank c = true) {f : α → Value} {as : List α}
    (has : ∀ a ∈ as, Carries read (f a) a) (hdepth : envelopeDepth (as.map f) ≤ maxDepth) :
    decode read (String.ofList (before ++ (envelope gap (as.map f) ++ after))) =
      .ok (.results as) := by
  have hexact : ∀ v ∈ as.map f, v.Exact := fun v hv => by
    obtain ⟨a, ha, rfl⟩ := List.mem_map.1 hv
    exact (has a ha).exact
  have hread : (Value.list ((as.map f).map Value.held)).readList read = .ok as := by
    rw [List.map_map]
    exact Value.readList_list fun a ha => (has a ha).read_held
  have hfield : (Value.object [("Results", .list ((as.map f).map Value.held))]).field? "Results" =
      some (.list ((as.map f).map Value.held)) := by simp [Value.field?]
  have htext := ofText_envelope hgap hexact hdepth
  obtain ⟨inner, hinner⟩ := exists_envelope gap (as.map f)
  rw [hinner] at htext ⊢
  have htrim : Text.trim (before ++ ('\x7b' :: (inner ++ ['\x7d']) ++ after)) =
      '\x7b' :: (inner ++ ['\x7d']) := Text.trim_append hbefore hafter (by decide) (by decide)
  rw [decode, String.toList_ofList, htrim]
  dsimp only
  rw [htext]
  dsimp only
  rw [ofEnvelope, hfield]
  dsimp only
  rw [hread]

end Payload

end Telemetry
