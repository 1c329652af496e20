import Telemetry.Feed.Basic
import Telemetry.Proofs.Etl.Wire
import Telemetry.Proofs.Payload
/-!
# Feed — what is sent is what is read

For each of the three feeds, decoding undoes encoding (`decodes_feeds`): a frame
with an envelope of some items is decoded as these items. A log line and a report
on a node are always carried; a task is if its numbers are of the size they are
declared with and its durations are read back.
-/

namespace Telemetry

open Json

namespace Log

/-- **A line is carried.** -/
theorem Entry.carries (e : Entry) : Carries Entry.read (e.serialize .object) e := by
  refine ⟨.object ?_, ?_⟩
  · simp only [List.forall_mem_cons, List.not_mem_nil, false_implies, implies_true, and_true]
    exact ⟨.text _, .text _, .text _, .text _, .text _, .ofOption fun _ _ => .text _⟩
  · simp [serialize, heldFields, Value.ofFields, insertField, precedes, read, Value.readRecord,
      shape, set, Outline.finishObject]

end Log

namespace Node

theorem readName_name (c : Condition) :
    (Value.text c.name).readName Condition.names = .ok c := by
  cases c <;> rfl

/-- **A report is carried.** -/
theorem Status.carries (s : Status) : Carries Status.read (s.serialize .object) s := by
  refine ⟨.object ?_, ?_⟩
  · simp only [List.forall_mem_cons, List.not_mem_nil, false_implies, implies_true, and_true]
    exact ⟨.text _, .text _, .text _, .ofOption fun _ _ => .text _, .ofOption fun _ _ => .text _,
      .ofOption fun _ _ => .text _⟩
  · simp [serialize, heldFields, Value.ofFields, insertField, precedes, read, Value.readRecord,
      shape, Draft.set, Outline.finishObject, readName_name]

end Node

namespace Feed

variable {ι τ ρ ω : Type}

/-- **A feed decodes what is written**: a frame with an envelope of items, which
nests at most 127 lists and objects, brings exactly these items, whatever space
is in the envelope and whatever blanks are around it. -/
def Decodes (f : Feed ι τ ρ ω) (write : ι → Value) (Exact : ι → Prop) : Prop :=
  ∀ (items : List ι) (before gap after : List Char), (∀ a ∈ items, Exact a) →
    Payload.envelopeDepth (items.map write) ≤ 127 →
    (∀ c ∈ before, Text.isBlank c = true) → (∀ c ∈ gap, isSpace c = true) →
    (∀ c ∈ after, Text.isBlank c = true) →
      Payload.decode f.read
        (String.ofList (before ++ (Payload.envelope gap (items.map write) ++ after))) =
          .ok (.results items)

/-- **Decoding undoes encoding**, with the fields of every record as they are
declared. -/
theorem decodes_feeds : etl.Decodes (Etl.Task.serialize .object) Etl.Task.Exact ∧
    logs.Decodes (Log.Entry.serialize .object) (fun _ => True) ∧
    nodes.Decodes (Node.Status.serialize .object) fun _ => True := by
  refine ⟨?_, ?_, ?_⟩ <;> intro items before gap after hexact hdepth hbefore hgap hafter
  · exact Payload.decode_envelope hbefore hgap hafter (fun t ht => (hexact t ht).carries) hdepth
  · exact Payload.decode_envelope hbefore hgap hafter (fun e _ => e.carries) hdepth
  · exact Payload.decode_envelope hbefore hgap hafter (fun s _ => s.carries) hdepth

/-- A task with steps inside each other, in a frame that begins with a wide
blank. -/
theorem decodes_feeds_nested :
    let duration : Binary64 := ⟨false, 0x18000000000000, -52⟩
    let inner := Etl.Operation.mk "\"\\\x07𝄞" duration []
    let outer := Etl.Operation.mk "Load" duration [inner]
    let run : Etl.Stats := ⟨-5, "2024-05-01T10:00:00Z", none, duration, [("a", 1), ("b", -2)], [], 3,
      0, some true, none, none, some outer⟩
    let task : Etl.Task := ⟨7, "Orders", "Raven", none, [⟨"Script", [run]⟩]⟩
    let results := [task].map (Etl.Task.serialize .object)
    let frame := ['\u3000'] ++ (Payload.envelope [' '] results ++ ['\n'])
    task.Exact ∧ Payload.envelopeDepth results = 11 ∧
      Payload.decode etl.read (String.ofList frame) = .ok (.results [task]) := by
  intro duration inner outer run task results frame
  have hduration : Rereads duration := by decide +kernel
  have hfits : ∀ n ∈ ([-5, 1, -2, 3, 0, 7] : List Int), IntKind.i64.Fits n := by
    unfold IntKind.Fits
    decide
  have hcounters : Etl.Counters [("a", 1), ("b", -2)] :=
    ⟨by decide, by simpa using ⟨hfits 1 (by decide), hfits (-2) (by decide)⟩⟩
  have hnone : Etl.Counters [] := ⟨.nil, by simp⟩
  have hinner : inner.Exact := .mk hduration (by simp)
  have houter : outer.Exact := .mk hduration (by simpa using hinner)
  have hrun : run.Exact := by
    refine ⟨hfits _ (by decide), hduration, hcounters, hnone, hfits _ (by decide),
      hfits _ (by decide), ?_⟩
    rintro o ⟨⟩
    exact houter
  have htask : task.Exact := by
    refine ⟨hfits _ (by decide), ?_⟩
    simpa [task] using hrun
  have hdepth : Payload.envelopeDepth results = 11 := by decide +kernel
  have hlimit : Payload.envelopeDepth results ≤ 127 := by rw [hdepth]; decide
  have hblank : ∀ c : Char, c = '\u3000' ∨ c = '\n' → Text.isBlank c = true := by
    rintro c (rfl | rfl) <;> decide
  refine ⟨htask, hdepth, decodes_feeds.1 [task] ['\u3000'] [' '] ['\n'] ?_ hlimit ?_ ?_ ?_⟩
  · simpa using htask
  · exact fun c hc => hblank c (.inl (List.mem_singleton.1 hc))
  · exact fun c hc => List.mem_singleton.1 hc ▸ rfl
  · exact fun c hc => hblank c (.inr (List.mem_singleton.1 hc))

end Feed

end Telemetry
