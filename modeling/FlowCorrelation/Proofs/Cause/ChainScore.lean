import FlowCorrelation.Proofs.Cause.Accusation
import FlowCorrelation.Proofs.Cause.Route
import FlowCorrelation.Proofs.Numeral.Exact

namespace FlowCorrelation

variable {K : Type}

section

variable [Zero K] [Add K] [LinearOrder K]

theorem zero_le_weight_of_heaviestPath {ι : Type} {weight : ι → ι → K} {l : List ι} {p : Path ι K}
    (h : heaviestPath weight l = some p) : 0 ≤ p.weight := by
  rw [heaviestPath, Option.or_eq_some_iff] at h
  rcases h with h | ⟨-, h⟩
  · exact Path.zero_le_weight_of_mem_all (List.mem_filter.1 (Path.mem_of_heaviest h)).1
  · exact Path.zero_le_weight_of_mem_all (List.mem_of_head? h)

theorem Chain.zero_le_weight_ofEvents [One K] [Sub K] [Mul K] [Neg K] [Scalar K] (g : ServiceGraph)
    (s : CauseSettings) (events : List CauseEvent) : 0 ≤ (ofEvents g s events : Chain K).weight := by
  unfold ofEvents
  cases h : heaviestPath (CauseEvent.linkWeight (K := K) g s) (events.filter (·.kind.isIncident)) with
  | none => exact le_rfl
  | some p => exact zero_le_weight_of_heaviestPath h

end

theorem Evidence.get?_scores_of_bestSuspect [Zero K] [Add K] [Mul K] [Scalar K] {e : Evidence K}
    {s : CauseSettings} {x : Suspect K} (h : e.bestSuspect s = some x) :
    (e.scores s).get? x.service = some x.score := by
  obtain ⟨⟨service, score⟩, hmem, rfl⟩ := Option.map_eq_some_iff.1 h
  exact Dict.mem_entries_iff.1 (mem_of_lastGreatest hmem)

/-- A service without a candidate scores for the chain alone, and once. -/
theorem Evidence.score_of_no_candidate [Zero K] [Add K] [Mul K] [Scalar K] {e : Evidence K}
    {s : CauseSettings} {service : String} {score : K}
    (hnone : ∀ x ∈ e.estimate.candidates, x.service ≠ service)
    (h : (e.scores s).get? service = some score) :
    score = 0 + Scalar.ofFloat s.chainWeight * e.chain.strength := by
  have hcausal : (e.causalScores s).get? service = none := by
    refine Option.not_isSome_iff_eq_none.1 (fun hscored ↦ ?_)
    obtain ⟨x, hx, hservice⟩ := contains_causalScores.1 hscored
    exact hnone x hx hservice
  unfold scores at h
  split at h
  · rw [hcausal] at h
    cases h
  · rw [Dict.update, Dict.get?_insert] at h
    split at h
    case isTrue horigin =>
      rw [horigin, hcausal] at h
      exact (Option.some.inj h).symm
    case isFalse =>
      rw [hcausal] at h
      cases h

variable [Field K] [LinearOrder K] [Scalar K] {g : ServiceGraph} {s : CauseSettings} {e : Evidence K}
  {c : FlowContext} {anomaly : AnomalySettings} {v : Verdict K}

theorem Evidence.ofContext?_eq_some (h : ofContext? c s anomaly = some e) :
    Estimate.ofSignals? c.signals (ServiceGraph.ofContext c)
        (Buckets.ofPeriod c.period s.bucketCount) anomaly = some e.estimate ∧
      ∃ events, e.chain = Chain.ofEvents (ServiceGraph.ofContext c) s events := by
  obtain ⟨estimate, hestimate, h⟩ := Option.bind_eq_some_iff.1 h
  obtain ⟨events, -, h⟩ := Option.bind_eq_some_iff.1 h
  cases h
  exact ⟨hestimate, events, rfl⟩

variable [IsStrictOrderedRing K]

theorem Chain.strength_ofEvents (hexp : ∀ w : K, 0 ≤ w → 0 < Scalar.exp (-w) ∧ Scalar.exp (-w) ≤ 1)
    (g : ServiceGraph) (s : CauseSettings) (events : List CauseEvent) :
    0 ≤ (ofEvents g s events : Chain K).strength ∧ (ofEvents g s events : Chain K).strength ≤ 1 := by
  have hweight := zero_le_weight_ofEvents (K := K) g s events
  unfold ofEvents at hweight ⊢
  cases h : heaviestPath (CauseEvent.linkWeight (K := K) g s) (events.filter (·.kind.isIncident)) with
  | none => exact ⟨le_rfl, zero_le_one⟩
  | some p =>
    rw [h] at hweight
    obtain ⟨hpos, hle⟩ := hexp p.weight hweight
    simp only [Option.map_some, Option.getD_some, ofPath]
    split
    · exact ⟨le_rfl, zero_le_one⟩
    · exact ⟨sub_nonneg.2 hle, sub_le_self 1 hpos.le⟩

theorem Evidence.score_le_chainWeight
    (hexp : ∀ w : K, 0 ≤ w → 0 < Scalar.exp (-w) ∧ Scalar.exp (-w) ≤ 1)
    (hweight : 0 ≤ (Scalar.ofFloat s.chainWeight : K)) (h : ofContext? c s anomaly = some e)
    {x : Suspect K} (hx : e.bestSuspect s = some x)
    (hnone : ∀ y ∈ e.estimate.candidates, y.service ≠ x.service) :
    0 ≤ x.score ∧ x.score ≤ Scalar.ofFloat s.chainWeight := by
  obtain ⟨-, events, hchain⟩ := ofContext?_eq_some h
  obtain ⟨hnonneg, hle⟩ := Chain.strength_ofEvents hexp (ServiceGraph.ofContext c) s events
  rw [score_of_no_candidate hnone (get?_scores_of_bestSuspect hx), hchain, zero_add]
  exact ⟨mul_nonneg hweight hnonneg, mul_le_of_le_one_right hweight hle⟩

/-- Where chains weigh less than the threshold, a chain alone decides nothing, however long or heavy it
is: a service that is named without a candidate scores at most the weight of chains, and the verdict is
not decided. So it is not where there are no candidates at all. -/
theorem Verdict.not_decided_by_chain
    (hexp : ∀ w : K, 0 ≤ w → 0 < Scalar.exp (-w) ∧ Scalar.exp (-w) ≤ 1)
    (c : FlowContext) (s : CauseSettings) (anomaly : AnomalySettings)
    (hweight : 0 ≤ (Scalar.ofFloat s.chainWeight : K))
    (hthreshold : (Scalar.ofFloat s.chainWeight : K) < Scalar.ofFloat s.threshold) :
    let estimate : Option (Estimate K) := Estimate.ofSignals? c.signals (ServiceGraph.ofContext c)
      (Buckets.ofPeriod c.period s.bucketCount) anomaly
    let verdict : Option (Verdict K) := Verdict.ofContext? c s anomaly
    (∀ e, estimate = some e → ∃ v, verdict = some v ∧
      (∀ service, v.service? = some service → (∀ x ∈ e.candidates, x.service ≠ service) →
        v.isDecided = false ∧ 0 ≤ v.confidence ∧ v.confidence ≤ Scalar.ofFloat s.chainWeight) ∧
      (e.candidates = [] → v.isDecided = false)) ∧
    (estimate = none → (∃ x ∈ c.signals.spans, x.endTime? = none) ∧
      ∀ v, verdict = some v → v.isDecided = false) := by
  intro estimate verdict
  have hends : estimate = none ↔ ∃ x ∈ c.signals.spans, x.endTime? = none :=
    Option.map_eq_none_iff.trans Signals.endings?_eq_none_iff
  have hnamed (e : Estimate K) (he : estimate = some e) (v : Verdict K) (hv : verdict = some v)
      (service : String) (hservice : v.service? = some service)
      (hnone : ∀ x ∈ e.candidates, x.service ≠ service) :
      v.isDecided = false ∧ 0 ≤ v.confidence ∧ v.confidence ≤ Scalar.ofFloat s.chainWeight := by
    rcases ofContext?_cases hv with hunnamed | ⟨evidence, x, hevidence, hx, hcases⟩
    · cases hunnamed.symm.trans hservice
    obtain rfl : e = evidence.estimate :=
      Option.some.inj (he.symm.trans (Evidence.ofContext?_eq_some hevidence).1)
    have hsuspect : x.service = service := by
      rcases hcases with ⟨-, rfl⟩ | ⟨-, rfl⟩ <;> exact Option.some.inj hservice
    obtain ⟨hnonneg, hle⟩ := Evidence.score_le_chainWeight hexp hweight hevidence hx (hsuspect ▸ hnone)
    rcases hcases with ⟨-, rfl⟩ | ⟨hscore, -⟩
    · exact ⟨rfl, hnonneg, hle⟩
    · exact absurd (hle.trans_lt hthreshold) hscore
  refine ⟨fun e he ↦ ?_, fun hnone ↦ ⟨hends.1 hnone, fun v hv ↦ ?_⟩⟩
  · obtain ⟨v, hv⟩ : ∃ v, verdict = some v := by
      refine Option.ne_none_iff_exists'.1 (fun hnone ↦ ?_)
      rw [hends.2 (ofContext?_eq_none_iff.1 hnone).2] at he
      cases he
    refine ⟨v, hv, hnamed e he v hv, fun hempty ↦ ?_⟩
    cases hservice : v.service? with
    | none => exact (of_service?_eq_none hservice).1
    | some service => exact (hnamed e he v hv service hservice (by simp [hempty])).1
  · rcases ofContext?_cases hv with hunnamed | ⟨evidence, -, hevidence, -⟩
    · exact (of_service?_eq_none hunnamed).1
    · cases hnone.symm.trans (Evidence.ofContext?_eq_some hevidence).1

/-- Two services that failed one after the other, with no metric at all, are no cause: the verdict names
one of them, with less than the threshold. -/
theorem Verdict.not_decided_without_metrics :
    let call : SpanRecord :=
      { timestamp := ⟨0, 0⟩, service := "gateway", name := "GET", status := .error
        spanId := some "1" }
    let failure : SpanRecord :=
      { timestamp := ⟨0, 0⟩, service := "orders", name := "reserve", status := .error
        spanId := some "2", parentSpanId := some "1" }
    let signals : Signals := ⟨[call, failure], [], []⟩
    let c : FlowContext :=
      { id := "flow-1", period := .between ⟨0, 0⟩ ⟨0, 0⟩, summary := signals.summary []
        timeline := signals.timeline [], calls := ServiceCall.ofSpans signals.spans
        rootService := some "gateway", rootOperation := some "GET", signals }
    (0 : ℝ) ≤ Scalar.ofFloat ({} : CauseSettings).chainWeight ∧
      (Scalar.ofFloat ({} : CauseSettings).chainWeight : ℝ) <
        Scalar.ofFloat ({} : CauseSettings).threshold ∧
      ∃ v : Verdict ℝ, Verdict.ofContext? c {} {} = some v ∧ v.service? ≠ none ∧
        v.isDecided = false ∧ v.confidence ≤ Scalar.ofFloat ({} : CauseSettings).chainWeight := by
  intro call failure signals c
  have hexp (w : ℝ) (hw : 0 ≤ w) : 0 < Scalar.exp (-w) ∧ Scalar.exp (-w) ≤ 1 :=
    ⟨Real.exp_pos _, Real.exp_le_one_iff.2 (neg_nonpos.2 hw)⟩
  have hchain : Numeral.Double.ofFloat 0.4 = .finite false 7205759403792794 (-54) := by
    decide +kernel
  have hhalf : Numeral.Double.ofFloat 0.5 = .finite false 4503599627370496 (-53) := by
    decide +kernel
  have hweight : (0 : ℝ) ≤ Scalar.ofFloat ({} : CauseSettings).chainWeight := by
    refine le_of_le_of_eq ?_ (ofFloat_of_finite hchain).symm
    norm_num
  have hthreshold : (Scalar.ofFloat ({} : CauseSettings).chainWeight : ℝ) <
      Scalar.ofFloat ({} : CauseSettings).threshold := by
    rw [ofFloat_of_finite hchain, ofFloat_of_finite hhalf]
    norm_num
  obtain ⟨hestimated, hunestimated⟩ := not_decided_by_chain hexp c {} {} hweight hthreshold
  obtain ⟨e, he⟩ := Option.ne_none_iff_exists'.1 (fun hnone ↦ by
    obtain ⟨x, hx, hend⟩ := (hunestimated hnone).1
    simp only [c, signals, List.mem_cons, List.not_mem_nil, or_false] at hx
    rcases hx with rfl | rfl <;> exact absurd hend (by decide +kernel))
  have hempty : e.candidates = [] := by
    refine List.eq_nil_iff_forall_not_mem.2 (fun x hx ↦ ?_)
    obtain ⟨p, hp, -⟩ := Estimate.isAnomalous_of_mem_candidates he hx
    exact nomatch hp
  obtain ⟨v, hv, hnamed, hundecided⟩ := hestimated e he
  have hservice : v.service? ≠ none := fun hnone ↦ by
    rcases (Verdict.service?_eq_none_iff hv).1 hnone with hgraph | hclean
    · exact absurd hgraph (by decide +kernel)
    · exact hclean "orders" (Or.inl ⟨failure, by simp [c, signals], rfl, rfl⟩)
  obtain ⟨service, hsome⟩ := Option.ne_none_iff_exists'.1 hservice
  exact ⟨hweight, hthreshold, v, hv, hservice, hundecided hempty,
    (hnamed service hsome (by simp [hempty])).2.2⟩

end FlowCorrelation
