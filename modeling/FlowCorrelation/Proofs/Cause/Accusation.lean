import FlowCorrelation.Cause.Report
import FlowCorrelation.Proofs.Cause.Candidate
import FlowCorrelation.Proofs.Cause.Path
import FlowCorrelation.Proofs.KeySet
import Mathlib.Algebra.Order.Field.Basic

namespace FlowCorrelation

variable {K : Type}

theorem mem_of_lastGreatest [Scalar K] {l : List (String × K)} {x : String × K}
    (h : lastGreatest l = some x) : x ∈ l := by
  cases l with
  | nil => cases h
  | cons y l =>
    obtain rfl := Option.some.inj h
    refine foldl_mem_of_choice (fun a b ↦ ?_) l y
    split
    · exact Or.inr rfl
    · exact Or.inl rfl

theorem lastGreatest_eq_none_iff [Scalar K] {l : List (String × K)} :
    lastGreatest l = none ↔ l = [] := by
  cases l <;> simp [lastGreatest]

theorem Chain.origin?_eq_none_iff {c : Chain K} : c.origin? = none ↔ c.isEmpty := by
  rw [Chain.origin?, Option.map_eq_none_iff, List.head?_eq_none_iff, Chain.isEmpty,
    List.isEmpty_iff]

namespace Verdict

/-- The service that is named, as the cause or as the nearest to one. -/
def service? : Verdict K → Option String
  | .doubtful x _ | .decided x _ => some x.service
  | .noServices | .noIncidents | .noSuspects => none

def isDecided : Verdict K → Bool
  | .decided .. => true
  | .noServices | .noIncidents | .noSuspects | .doubtful .. => false

/-- The metric that is blamed, which only a decided verdict does. -/
def metric? : Verdict K → Option String
  | .decided x e => (e.topCandidate x.service).map (·.metric)
  | .noServices | .noIncidents | .noSuspects | .doubtful .. => none

def confidence [Zero K] [One K] [LT K] [DecidableLT K] : Verdict K → K
  | .decided x _ => x.confidence
  | .doubtful x _ => x.score
  | .noServices | .noIncidents | .noSuspects => 0

end Verdict

namespace Finding

def service? : Finding → Option String
  | .conclusive r => some r.service
  | .inconclusive _ nearest _ => nearest

def metric? : Finding → Option String
  | .conclusive r => r.metric
  | .inconclusive .. => none

def confidence : Finding → Float
  | .conclusive r => r.confidence
  | .inconclusive _ _ confidence => confidence

theorem ofVerdict_spec (flow : String) (threshold : Float) (v : Verdict Float) :
    (ofVerdict flow threshold v).service? = v.service? ∧
    (ofVerdict flow threshold v).metric? = v.metric? ∧
    (ofVerdict flow threshold v).isConclusive = v.isDecided ∧
    (ofVerdict flow threshold v).confidence = v.confidence := by
  cases v <;> exact ⟨rfl, rfl, rfl, rfl⟩

end Finding

namespace Evidence

variable [Zero K] [Add K] [Mul K] [Scalar K] {e : Evidence K} {s : CauseSettings} {service : String}

omit [Zero K] [Add K] in
theorem contains_causalScores :
    (e.causalScores s).contains service ↔ ∃ c ∈ e.estimate.candidates, c.service = service := by
  have hfold (l : List (Candidate K)) (d : Dict K) :
      (l.foldl (fun d c ↦ d.update c.service (fun old ↦
        old.getD (Scalar.ofFloat s.causalWeight * c.confidence))) d).contains service ↔
        d.contains service ∨ ∃ c ∈ l, c.service = service := by
    induction l generalizing d with
    | nil => simp
    | cons c l ih =>
      rw [List.foldl_cons, ih, Dict.contains_update, List.exists_mem_cons_iff,
        or_comm (a := c.service = service), or_assoc]
  exact (hfold e.estimate.candidates ∅).trans (or_iff_right (by simp [Dict.contains]))

theorem contains_scores : (e.scores s).contains service ↔
    (∃ c ∈ e.estimate.candidates, c.service = service) ∨ e.chain.origin? = some service := by
  unfold scores
  cases e.chain.origin? with
  | none => simp [contains_causalScores]
  | some origin =>
    rw [Dict.contains_update, contains_causalScores, or_comm, Option.some.injEq]

theorem contains_of_bestSuspect {x : Suspect K} (h : e.bestSuspect s = some x) :
    (e.scores s).contains x.service := by
  obtain ⟨⟨service, score⟩, hmem, rfl⟩ := Option.map_eq_some_iff.1 h
  rw [Dict.contains, Dict.mem_entries_iff.1 (mem_of_lastGreatest hmem)]
  rfl

theorem exists_bestSuspect (h : (e.scores s).contains service) : ∃ x, e.bestSuspect s = some x := by
  refine Option.ne_none_iff_exists'.1 (fun hnone ↦ ?_)
  rw [bestSuspect, Option.map_eq_none_iff, lastGreatest_eq_none_iff] at hnone
  simp [Dict.contains, Dict.get?, hnone] at h

/-- Without candidates and incidents no service is named; otherwise the best suspect is. -/
theorem judge_cases [LT K] [DecidableLT K] :
    (e.estimate.candidates = [] ∧ e.chain.isEmpty ∧ e.judge s = .noIncidents) ∨
      ∃ x, e.bestSuspect s = some x ∧
        (x.score < Scalar.ofFloat s.threshold ∧ e.judge s = .doubtful x e ∨
          ¬ x.score < Scalar.ofFloat s.threshold ∧ e.judge s = .decided x e) := by
  by_cases hnothing : e.estimate.candidates.isEmpty && e.chain.isEmpty
  · obtain ⟨hcandidates, hchain⟩ := Bool.and_eq_true_iff.1 hnothing
    exact Or.inl ⟨List.isEmpty_iff.1 hcandidates, hchain, if_pos hnothing⟩
  obtain ⟨service, hservice⟩ : ∃ service, (e.scores s).contains service := by
    cases hcandidates : e.estimate.candidates with
    | cons c l => exact ⟨c.service, contains_scores.2 (Or.inl ⟨c, by simp [hcandidates], rfl⟩)⟩
    | nil =>
      have hchain : e.chain.origin? ≠ none := fun hnone ↦ hnothing
        (by simp [hcandidates, Chain.origin?_eq_none_iff.1 hnone])
      obtain ⟨origin, horigin⟩ := Option.ne_none_iff_exists'.1 hchain
      exact ⟨origin, contains_scores.2 (Or.inr horigin)⟩
  obtain ⟨x, hx⟩ := exists_bestSuspect hservice
  refine Or.inr ⟨x, hx, ?_⟩
  simp only [judge, if_neg hnothing, hx]
  by_cases hscore : x.score < Scalar.ofFloat s.threshold <;> simp [hscore]

end Evidence

section

variable [Zero K] [One K] [Add K] [Sub K] [Mul K] [Neg K] [LT K] [DecidableLT K] [LE K]
  [DecidableLE K] [Scalar K]

theorem Chain.events_sublist {g : ServiceGraph} {s : CauseSettings} {events : List CauseEvent} :
    (Chain.ofEvents g s events : Chain K).events.Sublist (events.filter (·.kind.isIncident)) := by
  unfold Chain.ofEvents
  cases h : heaviestPath (CauseEvent.linkWeight (K := K) g s) (events.filter (·.kind.isIncident)) with
  | none => exact List.nil_sublist _
  | some p => exact sublist_of_heaviestPath h

theorem Chain.isEmpty_ofEvents {g : ServiceGraph} {s : CauseSettings} {events : List CauseEvent} :
    (Chain.ofEvents g s events : Chain K).isEmpty ↔ ∀ e ∈ events, ¬ e.kind.isIncident := by
  rw [← List.filter_eq_nil_iff, Chain.ofEvents]
  cases h : heaviestPath (CauseEvent.linkWeight (K := K) g s) (events.filter (·.kind.isIncident)) with
  | none => exact iff_of_true rfl (heaviestPath_eq_none_iff.1 h)
  | some p =>
    refine iff_of_false (by simp [Chain.isEmpty, Chain.ofPath, Path.toList]) (fun hnil ↦ ?_)
    rw [heaviestPath_eq_none_iff.2 hnil] at h
    cases h

variable [Div K] [NatCast K] {s : CauseSettings} {c : FlowContext} {anomaly : AnomalySettings}

namespace Evidence

variable {e : Evidence K} {service : String}

theorem ofContext?_eq_none_iff :
    (ofContext? c s anomaly : Option (Evidence K)) = none ↔
      ∃ x ∈ c.signals.spans, x.endTime? = none := by
  unfold ofContext? Estimate.ofSignals?
  cases hendings : c.signals.endings? with
  | none => simpa using Signals.endings?_eq_none_iff.1 hendings
  | some endings =>
    cases hevents : c.signals.causeEvents? anomaly with
    | none => simpa using Signals.causeEvents?_eq_none_iff.1 hevents
    | some events =>
      simpa using mt Signals.causeEvents?_eq_none_iff.2 (hevents ▸ Option.some_ne_none events)

theorem isAnomalous_of_candidate (h : ofContext? c s anomaly = some e) {x : Candidate K}
    (hx : x ∈ e.estimate.candidates) : c.signals.IsAnomalous anomaly ⟨x.service, x.metric⟩ := by
  obtain ⟨estimate, hestimate, h⟩ := Option.bind_eq_some_iff.1 h
  obtain ⟨events, -, h⟩ := Option.bind_eq_some_iff.1 h
  cases h
  exact Estimate.isAnomalous_of_mem_candidates hestimate hx

theorem hasIncident_of_origin (h : ofContext? c s anomaly = some e)
    (horigin : e.chain.origin? = some service) : c.signals.HasIncident anomaly service := by
  obtain ⟨estimate, -, h⟩ := Option.bind_eq_some_iff.1 h
  obtain ⟨events, hevents, h⟩ := Option.bind_eq_some_iff.1 h
  cases h
  obtain ⟨first, hfirst, rfl⟩ := Option.map_eq_some_iff.1 horigin
  obtain ⟨hmem, hkind⟩ := List.mem_filter.1 (Chain.events_sublist.subset (List.mem_of_head? hfirst))
  exact (Signals.exists_incident_iff hevents).1 ⟨first, hmem, hkind, rfl⟩

theorem hasIncident_of_scored (h : ofContext? c s anomaly = some e)
    (hscored : (e.scores s).contains service) : c.signals.HasIncident anomaly service := by
  rcases contains_scores.1 hscored with ⟨x, hx, rfl⟩ | horigin
  · exact Or.inr (Or.inr ⟨x.metric, isAnomalous_of_candidate h hx⟩)
  · exact hasIncident_of_origin h horigin

end Evidence

namespace Verdict

variable {v : Verdict K}

theorem ofContext?_eq_none_iff :
    (ofContext? c s anomaly : Option (Verdict K)) = none ↔
      ¬ (ServiceGraph.ofContext c).isEmpty ∧ ∃ x ∈ c.signals.spans, x.endTime? = none := by
  unfold ofContext?
  split
  · rename_i hempty
    exact iff_of_false nofun (fun h ↦ h.1 hempty)
  · rename_i hempty
    rw [Option.map_eq_none_iff, Evidence.ofContext?_eq_none_iff]
    exact (and_iff_right hempty).symm

/-- A verdict names no service, or the best suspect of the evidence in the context. -/
theorem ofContext?_cases (h : ofContext? c s anomaly = some v) :
    v.service? = none ∨ ∃ e x, Evidence.ofContext? c s anomaly = some e ∧
      e.bestSuspect s = some x ∧ (x.score < Scalar.ofFloat s.threshold ∧ v = .doubtful x e ∨
        ¬ x.score < Scalar.ofFloat s.threshold ∧ v = .decided x e) := by
  unfold ofContext? at h
  split at h
  · cases h
    exact Or.inl rfl
  · obtain ⟨e, he, rfl⟩ := Option.map_eq_some_iff.1 h
    rcases e.judge_cases (s := s) with ⟨-, -, hjudge⟩ | ⟨x, hx⟩
    · exact Or.inl (by rw [hjudge]; rfl)
    · exact Or.inr ⟨e, x, he, hx⟩

theorem hasIncident_of_named (h : ofContext? c s anomaly = some v) {service : String}
    (hservice : v.service? = some service) : c.signals.HasIncident anomaly service := by
  rcases ofContext?_cases h with hnone | ⟨e, x, he, hx, ⟨-, rfl⟩ | ⟨-, rfl⟩⟩
  · cases hnone.symm.trans hservice
  all_goals
    obtain rfl := Option.some.inj hservice
    exact Evidence.hasIncident_of_scored he (Evidence.contains_of_bestSuspect hx)

theorem isAnomalous_of_blamed (h : ofContext? c s anomaly = some v) {metric : String}
    (hmetric : v.metric? = some metric) :
    ∃ service, v.service? = some service ∧ c.signals.IsAnomalous anomaly ⟨service, metric⟩ := by
  rcases ofContext?_cases h with hnone | ⟨e, x, he, -, ⟨-, rfl⟩ | ⟨-, rfl⟩⟩
  · cases v with
    | decided => cases hnone
    | _ => cases hmetric
  · cases hmetric
  · obtain ⟨y, hy, rfl⟩ := Option.map_eq_some_iff.1 hmetric
    obtain hservice : y.service = x.service := by simpa using List.find?_some hy
    refine ⟨x.service, rfl, ?_⟩
    rw [← hservice]
    exact Evidence.isAnomalous_of_candidate he (List.mem_of_find?_eq_some hy)

theorem service?_eq_none_iff (h : ofContext? c s anomaly = some v) :
    v.service? = none ↔ (ServiceGraph.ofContext c).isEmpty ∨
      ∀ service, ¬ c.signals.HasIncident anomaly service := by
  constructor
  · intro hnone
    by_cases hempty : (ServiceGraph.ofContext c).isEmpty
    · exact Or.inl hempty
    rw [ofContext?, if_neg hempty] at h
    obtain ⟨e, he, rfl⟩ := Option.map_eq_some_iff.1 h
    rcases e.judge_cases (s := s) with ⟨-, hchain, -⟩ | ⟨x, -, ⟨-, hjudge⟩ | ⟨-, hjudge⟩⟩
    · obtain ⟨estimate, -, he⟩ := Option.bind_eq_some_iff.1 he
      obtain ⟨events, hevents, he⟩ := Option.bind_eq_some_iff.1 he
      cases he
      refine Or.inr (fun service hincident ↦ ?_)
      obtain ⟨x, hx, hkind, -⟩ := (Signals.exists_incident_iff hevents).2 hincident
      exact Chain.isEmpty_ofEvents.1 hchain x hx hkind
    all_goals
      rw [hjudge] at hnone
      cases hnone
  · rintro (hempty | hclean)
    · rw [ofContext?, if_pos hempty] at h
      cases h
      rfl
    · exact Option.eq_none_iff_forall_ne_some.2
        (fun service hservice ↦ hclean service (hasIncident_of_named h hservice))

omit [Add K] [Sub K] [Mul K] [Neg K] [LE K] [DecidableLE K] [Scalar K] [Div K] [NatCast K] in
theorem of_service?_eq_none (h : v.service? = none) : v.isDecided = false ∧ v.confidence = 0 := by
  cases v with
  | noServices | noIncidents | noSuspects => exact ⟨rfl, rfl⟩
  | _ => cases h

end Verdict

end

end FlowCorrelation
