import Mathlib.Data.List.Nodup
import Telemetry.Config.Validation
/-!
# Config — what the rules ask for

A configuration passes the check exactly if it keeps all of the rules
(`validate_eq_ok_iff`). That no node is given twice is found out by going through the
nodes with those that were seen (`firstRepeat_eq_none_iff`), and says that no two of
them have both tag and shard in common.
-/

namespace Telemetry

namespace Config

variable {c : Config}

/-- **Nothing is repeated** if all are different and none of them was seen before. -/
theorem firstRepeat_eq_none_iff (seen nodes : List Location) :
    firstRepeat seen nodes = none ↔ nodes.Nodup ∧ ∀ l ∈ nodes, l ∉ seen := by
  induction nodes generalizing seen with
  | nil => simp [firstRepeat]
  | cons l rest ih =>
    rw [firstRepeat, List.nodup_cons, List.forall_mem_cons]
    by_cases hseen : l ∈ seen
    · simp [hseen]
    · rw [if_neg hseen, ih]
      -- those behind it are new exactly if they are neither seen before nor it
      have hnew : (∀ l' ∈ rest, l' ∉ l :: seen) ↔ l ∉ rest ∧ ∀ l' ∈ rest, l' ∉ seen := by
        constructor
        · intro h
          exact ⟨fun hl => h l hl List.mem_cons_self,
            fun l' hl' hmem => h l' hl' (List.mem_cons_of_mem l hmem)⟩
        · rintro ⟨hl, h⟩ l' hl' hmem
          rcases List.mem_cons.1 hmem with rfl | hmem
          · exact hl hl'
          · exact h l' hl' hmem
      rw [hnew]
      tauto

/-- **A configuration that keeps the rules.** -/
structure Valid (c : Config) : Prop where
  server : ∃ u, Url.parse c.serverUrl = .ok u ∧
    (u.scheme = "http".toList ∨ u.scheme = "https".toList)
  nodes : c.nodes ≠ []
  /-- No two nodes have both tag and shard in common. -/
  distinct : (c.nodes.map fun l => (l.nodeTag, l.shardNumber)).Nodup
  heartbeat : 0 < c.connection.heartbeatTimeoutMs

/-- Nodes are told apart by tag and shard. -/
theorem nodup_nodes_iff (nodes : List Location) :
    (nodes.map fun l => (l.nodeTag, l.shardNumber)).Nodup ↔ nodes.Nodup := by
  refine List.nodup_map_iff fun l l' h => ?_
  obtain ⟨htag, hshard⟩ := Prod.mk.inj h
  cases l
  cases l'
  exact congrArg₂ Location.mk htag hshard

theorem Valid.nodup (h : c.Valid) : c.nodes.Nodup := (nodup_nodes_iff c.nodes).1 h.distinct

/-- **What passes the check** is what keeps the rules. -/
theorem validate_eq_ok_iff : c.validate = .ok () ↔ c.Valid := by
  constructor
  · intro h
    unfold validate at h
    split at h
    · cases h
    · next u hparse =>
      split at h
      · cases h
      · next hscheme =>
        split at h
        · cases h
        · next hnodes =>
          split at h
          · cases h
          · next hrepeat =>
            split at h
            · cases h
            · next hheartbeat =>
              refine ⟨⟨u, hparse, ?_⟩, by simpa using hnodes, ?_, Nat.pos_of_ne_zero hheartbeat⟩
              · rwa [not_and_or, not_not, not_not] at hscheme
              · exact (nodup_nodes_iff _).2 ((firstRepeat_eq_none_iff _ _).1 hrepeat).1
  · intro h
    obtain ⟨u, hparse, hscheme⟩ := h.server
    have hhttp : ¬ (u.scheme ≠ "http".toList ∧ u.scheme ≠ "https".toList) := by
      rwa [not_and_or, not_not, not_not]
    have hnodes : ¬ c.nodes.isEmpty = true := by simpa using h.nodes
    have hrepeat : firstRepeat [] c.nodes = none :=
      (firstRepeat_eq_none_iff [] c.nodes).2 ⟨h.nodup, fun _ _ => List.not_mem_nil⟩
    simp only [validate, hparse]
    rw [if_neg hhttp, if_neg hnodes, hrepeat]
    exact if_neg (Nat.ne_of_gt h.heartbeat)

end Config

end Telemetry
