import FlowCorrelation.Cause.Effect
import FlowCorrelation.Proofs.Cause.Incident

namespace FlowCorrelation

namespace Estimate

variable {K : Type} [Zero K] [One K] [Add K] [Sub K] [Mul K] [Div K] [Neg K] [NatCast K]
  [LT K] [DecidableLT K] [Scalar K]
  {g : ServiceGraph} {outcomes : List (Option K)} {treatments : List Treatment} {t : Treatment}
  {c : Candidate K}

omit [Zero K] [One K] [Add K] [Sub K] [Mul K] [Div K] [Neg K] [NatCast K] [LT K] [DecidableLT K]
  [Scalar K] in
theorem active_of_treatedBuckets {active : List Bool} (h : treatedBuckets outcomes active ≠ 0) :
    true ∈ active := by
  obtain ⟨⟨y, treated⟩, hmem, hp⟩ := List.countP_pos_iff.1 (Nat.pos_of_ne_zero h)
  obtain rfl : treated = true := (Bool.and_eq_true_iff.1 hp).2
  exact (List.of_mem_zip hmem).2

theorem candidate?_eq_some_iff : candidate? g outcomes treatments t = some c ↔
    treatedBuckets outcomes t.active ≠ 0 ∧ ∃ x : K,
      (observations? outcomes t.active (strataOf treatments (g.callers t.series.service)
        outcomes.length)).bind backdoorEffect = some x ∧ 0 < clampUnit x ∧
      c = ⟨t.series.service, t.series.metric, clampUnit x,
        confidence (clampUnit x) (treatedBuckets outcomes t.active),
        treatedBuckets outcomes t.active⟩ := by
  simp only [candidate?]
  by_cases hactive : treatedBuckets outcomes t.active = 0
  · simp [hactive]
  · cases (observations? outcomes t.active (strataOf treatments (g.callers t.series.service)
      outcomes.length)).bind backdoorEffect with
    | none => simp
    | some x => by_cases hpos : 0 < clampUnit x <;> simp [hactive, hpos, eq_comm (a := c)]

theorem mem_candidates : c ∈ (ofTreatments g outcomes treatments).candidates ↔
    ∃ t ∈ treatments, candidate? g outcomes treatments t = some c := by
  rw [ofTreatments, List.mem_mergeSort, List.mem_filterMap]

theorem isAnomalous_of_mem_candidates {s : Signals} {b : Buckets} {anomaly : AnomalySettings}
    {e : Estimate K} (h : ofSignals? s g b anomaly = some e) (hc : c ∈ e.candidates) :
    s.IsAnomalous anomaly ⟨c.service, c.metric⟩ := by
  obtain ⟨endings, -, rfl⟩ := Option.map_eq_some_iff.1 h
  obtain ⟨t, ht, hcandidate⟩ := mem_candidates.1 hc
  obtain ⟨htreated, -, -, -, rfl⟩ := candidate?_eq_some_iff.1 hcandidate
  exact Signals.isAnomalous_of_mem_treatments ht (active_of_treatedBuckets htreated)

end Estimate

end FlowCorrelation
