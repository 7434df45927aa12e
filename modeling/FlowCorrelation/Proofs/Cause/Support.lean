import FlowCorrelation.Proofs.Cause.Accusation
import FlowCorrelation.Proofs.Numeral.Exact

namespace FlowCorrelation

/-- Whether the records bear out that a service is named and a metric of it blamed: something went
wrong in the service, and the metric has an anomalous point. -/
structure Signals.Supports (s : Signals) (anomaly : AnomalySettings)
    (service? metric? : Option String) : Prop where
  hasIncident : ∀ service, service? = some service → s.HasIncident anomaly service
  isAnomalous : ∀ metric, metric? = some metric →
    ∃ service, service? = some service ∧ s.IsAnomalous anomaly ⟨service, metric⟩

variable {K : Type}

theorem Verdict.supports [Zero K] [One K] [Add K] [Sub K] [Mul K] [Div K] [Neg K] [NatCast K]
    [LT K] [DecidableLT K] [LE K] [DecidableLE K] [Scalar K] {c : FlowContext} {s : CauseSettings}
    {anomaly : AnomalySettings} {v : Verdict K} (h : ofContext? c s anomaly = some v) :
    c.signals.Supports anomaly v.service? v.metric? where
  hasIncident _ := hasIncident_of_named h
  isAnomalous _ := isAnomalous_of_blamed h

theorem Finding.ofContext?_eq_none_iff {c : FlowContext} {s : CauseSettings}
    {anomaly : AnomalySettings} : ofContext? c s anomaly = none ↔
      ¬ (ServiceGraph.ofContext c).isEmpty ∧ ∃ x ∈ c.signals.spans, x.endTime? = none := by
  rw [ofContext?, Option.map_eq_none_iff, Verdict.ofContext?_eq_none_iff]

/-- An analysis names a service only if something went wrong in it, and blames a metric only if that
is a metric of this service with an anomalous point. A cause that is decided on has at least the
confidence that is asked for, and a service that is only named has less. Where nothing went wrong
nothing is named. All contexts that can be put together from records are analyzed. -/
theorem analysis_is_supported [Field K] [LinearOrder K] [Scalar K] (c : FlowContext)
    (s : CauseSettings) (anomaly : AnomalySettings)
    (hthreshold : (Scalar.ofFloat s.threshold : K) ≤ 1) :
    let verdict : Option (Verdict K) := Verdict.ofContext? c s anomaly
    let finding : Option Finding := Finding.ofContext? c s anomaly
    (∀ v, verdict = some v →
      c.signals.Supports anomaly v.service? v.metric? ∧
        (v.isDecided → Scalar.ofFloat s.threshold ≤ v.confidence) ∧
        (¬ v.isDecided → v.service? ≠ none → v.confidence < Scalar.ofFloat s.threshold) ∧
        ((∀ service, ¬ c.signals.HasIncident anomaly service) →
          v.isDecided = false ∧ v.service? = none ∧ v.confidence = 0)) ∧
      (∀ f, finding = some f →
        c.signals.Supports anomaly f.service? f.metric? ∧
          ((∀ service, ¬ c.signals.HasIncident anomaly service) →
            ∃ reason, f = .inconclusive reason none 0)) ∧
      ((verdict = none ∨ finding = none) →
        ∀ id settings now, FlowContext.assemble? id c.signals settings now = none) := by
  intro verdict finding
  refine ⟨fun v hv ↦ ⟨Verdict.supports hv, fun hdecided ↦ ?_, fun hdecided hnamed ↦ ?_,
    fun hclean ↦ ?_⟩, fun f hf ↦ ?_, fun hnone id settings now ↦ ?_⟩
  · rcases Verdict.ofContext?_cases hv with hnone | ⟨e, x, -, -, ⟨-, rfl⟩ | ⟨hscore, rfl⟩⟩
    · cases (Verdict.of_service?_eq_none hnone).1.symm.trans hdecided
    · cases hdecided
    · have hconfidence : (Verdict.decided x e).confidence = if x.score < 1 then x.score else 1 := rfl
      rw [hconfidence]
      split
      · exact not_lt.1 hscore
      · exact hthreshold
  · rcases Verdict.ofContext?_cases hv with hnone | ⟨e, x, -, -, ⟨hscore, rfl⟩ | ⟨-, rfl⟩⟩
    · exact absurd hnone hnamed
    · exact hscore
    · exact absurd rfl hdecided
  · have hnone := (Verdict.service?_eq_none_iff hv).2 (Or.inr hclean)
    exact ⟨(Verdict.of_service?_eq_none hnone).1, hnone, (Verdict.of_service?_eq_none hnone).2⟩
  · obtain ⟨v, hv, rfl⟩ := Option.map_eq_some_iff.1 hf
    obtain ⟨hservice, hmetric, -⟩ := Finding.ofVerdict_spec c.id s.threshold v
    refine ⟨?_, fun hclean ↦ ?_⟩
    · rw [hservice, hmetric]
      exact Verdict.supports hv
    · have hnone := (Verdict.service?_eq_none_iff hv).2 (Or.inr hclean)
      cases v with
      | doubtful | decided => cases hnone
      | _ => exact ⟨_, rfl⟩
  · refine FlowContext.assemble?_eq_none_iff.2 ?_
    rcases hnone with hnone | hnone
    · exact (Verdict.ofContext?_eq_none_iff.1 hnone).2
    · exact (Finding.ofContext?_eq_none_iff.1 hnone).2

/-- Where a single span failed, and nothing else is known, its service is named and no metric is
blamed. -/
theorem analysis_of_lone_failure :
    let span : SpanRecord :=
      { timestamp := ⟨0, 0⟩, service := "orders", name := "reserve", status := .error }
    let signals : Signals := ⟨[span], [], []⟩
    let c : FlowContext :=
      { id := "flow-1", period := .between ⟨0, 0⟩ ⟨0, 0⟩, summary := signals.summary []
        timeline := signals.timeline [], calls := [], rootService := some "orders"
        rootOperation := some "reserve", signals }
    ∃ v : Verdict ℝ, Verdict.ofContext? c {} {} = some v ∧ v.service? = some "orders" ∧
      v.metric? = none ∧ (v.isDecided ↔ Scalar.ofFloat 0.5 ≤ v.confidence) := by
  intro span signals c
  have hhalf : Numeral.Double.ofFloat 0.5 = .finite false 4503599627370496 (-53) := by
    decide +kernel
  have hthreshold : (Scalar.ofFloat ({} : CauseSettings).threshold : ℝ) ≤ 1 := by
    refine (ofFloat_of_finite hhalf).trans_le ?_
    norm_num
  obtain ⟨hverdict, -, hnone⟩ := analysis_is_supported c {} {} hthreshold
  obtain ⟨v, hv⟩ : ∃ v : Verdict ℝ, Verdict.ofContext? c {} {} = some v := by
    refine Option.ne_none_iff_exists'.1 (fun h ↦ ?_)
    obtain ⟨x, hx, hend⟩ := FlowContext.assemble?_eq_none_iff.1 (hnone (Or.inl h) "" {} ⟨0, 0⟩)
    obtain rfl := List.mem_singleton.1 hx
    exact absurd hend (by decide +kernel)
  obtain ⟨hsupport, hdecided, hdoubtful, -⟩ := hverdict v hv
  have hquiet (key : SeriesKey) : ¬ signals.IsAnomalous {} key := fun ⟨p, hp, _⟩ ↦ nomatch hp
  have hnamed : v.service? ≠ none := fun h ↦ by
    rcases (Verdict.service?_eq_none_iff hv).1 h with hempty | hclean
    · exact absurd hempty (by decide +kernel)
    · exact hclean "orders" (Or.inl ⟨span, List.mem_singleton_self _, rfl, rfl⟩)
  refine ⟨v, hv, ?_, ?_, hdecided, fun hconfidence ↦ ?_⟩
  · obtain ⟨service, hservice⟩ := Option.ne_none_iff_exists'.1 hnamed
    rcases hsupport.hasIncident service hservice with ⟨x, hx, rfl, -⟩ | ⟨x, hx, -⟩ | ⟨metric, hmetric⟩
    · rw [hservice, List.mem_singleton.1 hx]
    · cases hx
    · exact absurd hmetric (hquiet _)
  · refine Option.eq_none_iff_forall_ne_some.2 (fun metric hmetric ↦ ?_)
    obtain ⟨service, -, h⟩ := hsupport.isAnomalous metric hmetric
    exact hquiet _ h
  · by_contra h
    exact absurd hconfidence (not_le.2 (hdoubtful h hnamed))

end FlowCorrelation
