import Telemetry.Config.Basic
import Telemetry.Proofs.Json.Document
import Telemetry.Proofs.Time.Stamp
/-!
# Config — configurations that are read back

A configuration that was read is written so that it reads back the same
(`Config.ofText_toText`). Its numbers are of the kinds that their fields are read
as, and its cutoff is an instant that is kept (`Config.Exact`); such a
configuration is read back from its own text, record by record.
-/

namespace Telemetry

namespace Config

open Json

/-! ## What a file can say -/

/-- The number of a shard is of its kind. -/
def ExactNode (l : Location) : Prop := ∀ n ∈ l.shardNumber, IntKind.u32.Fits n

/-- Times are of their kind. -/
structure ExactConnection (s : ConnectionSettings) : Prop where
  heartbeatTimeoutMs : IntKind.u64.Fits s.heartbeatTimeoutMs
  reconnectDelayMs : IntKind.u64.Fits s.reconnectDelayMs

/-- The number of files is of its kind. -/
def ExactLogging (s : LoggingSettings) : Prop := IntKind.usize.Fits s.keepFiles

/-- **A configuration that a file can say.** -/
structure Exact (c : Config) : Prop where
  nodes : ∀ l ∈ c.nodes, ExactNode l
  connection : ExactConnection c.connection
  cutoff : ∀ t ∈ c.cutoff, t.Kept
  logging : ExactLogging c.logging

theorem exactConnection_standard : ExactConnection .standard := by
  constructor <;> decide

theorem exactLogging_standard : ExactLogging .standard :=
  (by decide : IntKind.usize.Fits 1)

/-! ## What is written is read back -/

theorem readInt_natCast {kind : IntKind} {n : Nat} (h : kind.Fits n)
    (hkind : kind.greatest < 0x10000000000000000) :
    (Value.int n).document.readInt kind = .ok (n : Int) :=
  Document.readInt_int h (by omega) (Int.lt_of_le_of_lt h.2 hkind)

theorem readOption_text (expected : String) (o : Option String) :
    (Value.ofOption .text o).document.readOption (·.readTextAs expected) = .ok o :=
  Document.readOption_ofOption (fun _ _ => rfl) nofun

theorem ExactNode.readRecord_serialize {l : Location} (h : ExactNode l) :
    (serializeNode .object l).document.readRecord nodeShape = .ok l := by
  obtain ⟨tag, shard⟩ := l
  rw [serializeNode, Document.readRecord_object]
  · cases shard with
    | none => simp [nodeShape, Outline.finishObject, Except.mapError]
    | some n =>
      have hread : (Value.int n).document.readOption (·.readInt .u32) = .ok (some (n : Int)) :=
        Document.readOption_ofOption (f := Value.int) (o := some (n : Int))
          (fun k hk => by
            cases hk
            exact readInt_natCast (h n rfl) (by decide))
          nofun
      simp [nodeShape, hread, Outline.finishObject, Except.mapError]
  · cases shard <;> simp [nodeShape]
  · cases shard <;> simp

theorem ExactConnection.readRecord_serialize {s : ConnectionSettings} (h : ExactConnection s) :
    (serializeConnection .object s).document.readRecord connectionShape = .ok s := by
  have hheartbeat := readInt_natCast h.heartbeatTimeoutMs (by decide)
  have hdelay := readInt_natCast h.reconnectDelayMs (by decide)
  rw [serializeConnection, Document.readRecord_object (by simp [connectionShape]) (by simp)]
  simp [connectionShape, hheartbeat, hdelay, Outline.finishObject, Except.mapError]

theorem ExactLogging.readRecord_serialize {s : LoggingSettings} (h : ExactLogging s) :
    (serializeLogging .object s).document.readRecord loggingShape = .ok s := by
  have hkeep := readInt_natCast h (by decide)
  rw [serializeLogging, Document.readRecord_object (by simp [loggingShape]) (by simp)]
  simp [loggingShape, hkeep, readOption_text, Outline.finishObject, Except.mapError]

theorem readCutoff_zuluText {t : Time.Instant} (h : t.Kept) :
    readCutoff (Value.text t.zuluText).document = .ok t := by
  rw [readCutoff, Document.readTextAs_text, Value.ok_bind, h.ofLenientStamp_zuluText]
  rfl

/-- **A configuration that a file can say is read back.** -/
theorem Exact.readRecord_serialize {c : Config} (h : c.Exact) :
    (c.serialize .object).document.readRecord shape = .ok c := by
  have hdatabase : (Value.ofOption .text c.database).document.readOption Document.readText =
      .ok c.database := readOption_text _ c.database
  have hnodes : (Value.list (c.nodes.map (serializeNode .object))).document.readList
      (·.readRecord nodeShape) = .ok c.nodes :=
    Document.readList_list fun l hl => (h.nodes l hl).readRecord_serialize
  have hcutoff : (Value.ofOption (fun t => .text t.zuluText) c.cutoff).document.readOption
      readCutoff = .ok c.cutoff :=
    Document.readOption_ofOption (fun t ht => readCutoff_zuluText (h.cutoff t ht)) nofun
  rw [serialize, Document.readRecord_object (by simp [shape]) (by simp)]
  simp [shape, hdatabase, hnodes, h.connection.readRecord_serialize, hcutoff,
    h.logging.readRecord_serialize, Outline.finishObject, Except.mapError]

/-! ## What is read can be said -/

/-- A number of a kind without negatives is still of it as a natural number. -/
theorem fits_toNat {kind : IntKind} {d : Document} {n : Int} (hkind : 0 ≤ kind.least)
    (h : d.readInt kind = .ok n) : kind.Fits n.toNat := by
  have hfits := Document.fits_of_readInt h
  rwa [Int.toNat_of_nonneg (Int.le_trans hkind hfits.1)]

theorem exactNode_of_readRecord {d : Document} {l : Location}
    (h : d.readRecord nodeShape = .ok l) : ExactNode l := by
  refine Document.readRecord_invariant (s := nodeShape)
    (P := fun draft => ∀ n ∈ draft.2, IntKind.u32.Fits n) ?_ ?_ ?_ h
  · intro draft key d draft' hdraft hset
    dsimp only [nodeShape] at hset
    split at hset
    · obtain ⟨tag, -, hset⟩ := bind_eq_ok_iff.1 hset
      cases hset
      exact hdraft
    · obtain ⟨o, ho, hset⟩ := bind_eq_ok_iff.1 hset
      cases hset
      intro n hn
      obtain ⟨k, hk, rfl⟩ := Option.map_eq_some_iff.1 hn
      exact fits_toNat (by decide) (Document.read_of_readOption ho k hk)
    · cases hset
      exact hdraft
  · exact nofun
  · intro draft r hdraft hfinish
    dsimp only [nodeShape] at hfinish
    split at hfinish <;> cases hfinish
    exact hdraft

theorem exactConnection_of_readRecord {d : Document} {s : ConnectionSettings}
    (h : d.readRecord connectionShape = .ok s) : ExactConnection s := by
  refine Document.readRecord_invariant (s := connectionShape) (P := ExactConnection) ?_
    exactConnection_standard ?_ h
  · intro s key d s' hs hset
    dsimp only [connectionShape] at hset
    split at hset
    · obtain ⟨n, hn, hset⟩ := bind_eq_ok_iff.1 hset
      cases hset
      exact ⟨fits_toNat (by decide) hn, hs.reconnectDelayMs⟩
    · obtain ⟨n, hn, hset⟩ := bind_eq_ok_iff.1 hset
      cases hset
      exact ⟨hs.heartbeatTimeoutMs, fits_toNat (by decide) hn⟩
    · obtain ⟨b, -, hset⟩ := bind_eq_ok_iff.1 hset
      cases hset
      exact ⟨hs.heartbeatTimeoutMs, hs.reconnectDelayMs⟩
    · cases hset
      exact hs
  · intro s s' hs hfinish
    cases hfinish
    exact hs

theorem exactLogging_of_readRecord {d : Document} {s : LoggingSettings}
    (h : d.readRecord loggingShape = .ok s) : ExactLogging s := by
  refine Document.readRecord_invariant (s := loggingShape) (P := ExactLogging) ?_
    exactLogging_standard ?_ h
  · intro s key d s' hs hset
    dsimp only [loggingShape] at hset
    split at hset
    · obtain ⟨level, -, hset⟩ := bind_eq_ok_iff.1 hset
      cases hset
      exact hs
    · obtain ⟨dir, -, hset⟩ := bind_eq_ok_iff.1 hset
      cases hset
      exact hs
    · obtain ⟨n, hn, hset⟩ := bind_eq_ok_iff.1 hset
      cases hset
      exact fits_toNat (by decide) hn
    · cases hset
      exact hs
  · intro s s' hs hfinish
    cases hfinish
    exact hs

theorem kept_of_readCutoff {d : Document} {t : Time.Instant} (h : readCutoff d = .ok t) :
    t.Kept := by
  obtain ⟨s, -, h⟩ := bind_eq_ok_iff.1 h
  split at h
  · next hstamp =>
    cases h
    exact Time.Instant.kept_of_ofLenientStamp hstamp
  · cases h

/-- **A configuration that is read is one that a file can say.** -/
theorem exact_of_readRecord {d : Document} {c : Config} (h : d.readRecord shape = .ok c) :
    c.Exact := by
  refine Document.readRecord_invariant (s := shape) (P := fun draft => draft.2.Exact) ?_ ?_ ?_ h
  · intro (url, c) key d (url', c') hc hset
    dsimp only [shape] at hc hset ⊢
    split at hset
    · obtain ⟨text, -, hset⟩ := bind_eq_ok_iff.1 hset
      cases hset
      exact hc
    · obtain ⟨database, -, hset⟩ := bind_eq_ok_iff.1 hset
      cases hset
      exact ⟨hc.nodes, hc.connection, hc.cutoff, hc.logging⟩
    · obtain ⟨nodes, hnodes, hset⟩ := bind_eq_ok_iff.1 hset
      cases hset
      refine ⟨fun l hl => ?_, hc.connection, hc.cutoff, hc.logging⟩
      obtain ⟨d, hd⟩ := Document.exists_read_of_readList hnodes l hl
      exact exactNode_of_readRecord hd
    · obtain ⟨connection, hconnection, hset⟩ := bind_eq_ok_iff.1 hset
      cases hset
      exact ⟨hc.nodes, exactConnection_of_readRecord hconnection, hc.cutoff, hc.logging⟩
    · obtain ⟨cutoff, hcutoff, hset⟩ := bind_eq_ok_iff.1 hset
      cases hset
      refine ⟨hc.nodes, hc.connection, fun t ht => ?_, hc.logging⟩
      exact kept_of_readCutoff (Document.read_of_readOption hcutoff t ht)
    · obtain ⟨logging, hlogging, hset⟩ := bind_eq_ok_iff.1 hset
      cases hset
      exact ⟨hc.nodes, hc.connection, hc.cutoff, exactLogging_of_readRecord hlogging⟩
    · cases hset
      exact hc
  · exact ⟨nofun, exactConnection_standard, nofun, exactLogging_standard⟩
  · intro (url, c) r hc hfinish
    dsimp only [shape] at hc hfinish
    split at hfinish <;> cases hfinish
    exact ⟨hc.nodes, hc.connection, hc.cutoff, hc.logging⟩

/-! ## Round trip -/

theorem Exact.ofText_toText {c : Config} (h : c.Exact) : ofText c.toText = .ok c := by
  rw [ofText, toText, readText_toText, h.readRecord_serialize]

theorem exact_of_ofText {s : String} {c : Config} (h : ofText s = .ok c) : c.Exact := by
  unfold ofText at h
  split at h
  · next hread =>
    cases h
    obtain ⟨c', hc', hread⟩ := bind_eq_ok_iff.1 hread
    split at hread <;> cases hread
    exact exact_of_readRecord hc'
  · cases h

/-- **A configuration that was read is read back from its own text**, its cutoff to
the nanosecond. -/
theorem ofText_toText_of_ofText {s : String} {c : Config} (h : ofText s = .ok c) :
    ofText c.toText = .ok c :=
  (exact_of_ofText h).ofText_toText

/-- A node as a list, a field that is not known, and a leap second west of UTC with
nine digits of a fraction. -/
theorem ofText_toText_leapSecond :
    let s := "\x7b\"nodes\": [\x7b\"tag\": \"A\", \"shard\": 4294967295\x7d, [\"B\"]], " ++
      "\"owner\": [1], \"cutoff\": \"2016-12-31 18:59:60.123456789 -05:00\", " ++
      "\"connection\": \x7b\"heartbeatTimeoutMs\": 18446744073709551615\x7d, " ++
      "\"serverUrl\": \"http://a\"\x7d"
    let c : Config := ⟨"http://a", none, [⟨"A", some 4294967295⟩, ⟨"B", none⟩],
      ⟨18446744073709551615, 3000, true⟩, some ⟨1483228799, 1123456789⟩, .standard⟩
    ofText s = .ok c ∧ ofText c.toText = .ok c := by
  intro s c
  have hread : (ofText s).toOption = some c := by decide +kernel
  have hok : ofText s = .ok c := ok_of_toOption hread
  exact ⟨hok, ofText_toText_of_ofText hok⟩

end Config

end Telemetry
