import FlowCorrelation.Cause.Buckets
import FlowCorrelation.Cause.Event
import FlowCorrelation.Proofs.Context.Assembly

namespace FlowCorrelation

namespace Signals

def anomalousPoints (s : Signals) (anomaly : AnomalySettings) : List MetricPoint :=
  flagged s.metrics (anomaly.detect s.metrics)

def IsAnomalous (s : Signals) (anomaly : AnomalySettings) (key : SeriesKey) : Prop :=
  ∃ p ∈ s.anomalousPoints anomaly, p.series = key

/-- Whether something went wrong in a service. -/
def HasIncident (s : Signals) (anomaly : AnomalySettings) (service : String) : Prop :=
  (∃ x ∈ s.spans, x.service = service ∧ x.isError) ∨
    (∃ x ∈ s.logs, x.service = service ∧ x.isError) ∨
    ∃ metric, s.IsAnomalous anomaly ⟨service, metric⟩

variable {s : Signals} {anomaly : AnomalySettings} {events : List CauseEvent}

theorem causeEvents?_eq_none_iff :
    s.causeEvents? anomaly = none ↔ ∃ x ∈ s.spans, x.endTime? = none := by
  rw [causeEvents?, Option.map_eq_none_iff, mapM_eq_none_iff]
  simp only [SpanRecord.causeEvents?, Option.map_eq_none_iff]

theorem endings?_eq_none_iff : s.endings? = none ↔ ∃ x ∈ s.spans, x.endTime? = none := by
  rw [endings?, Option.map_eq_none_iff, mapM_eq_none_iff]
  simp only [SpanRecord.ending?, Option.map_eq_none_iff]

theorem exists_spanIncident_iff {x : SpanRecord} {pair : List CauseEvent}
    (hpair : x.causeEvents? = some pair) {service : String} :
    (∃ e ∈ pair, e.kind.isIncident ∧ e.service = service) ↔ x.service = service ∧ x.isError := by
  obtain ⟨stop, -, rfl⟩ := Option.map_eq_some_iff.1 hpair
  cases herror : x.isError <;> simp [CauseKind.isIncident]

theorem logIncident_iff {x : LogEntry} : x.causeEvent.kind.isIncident ↔ x.isError := by
  cases herror : x.isError <;> simp [LogEntry.causeEvent, herror, CauseKind.isIncident]

theorem exists_incident_iff (h : s.causeEvents? anomaly = some events) {service : String} :
    (∃ e ∈ events, e.kind.isIncident ∧ e.service = service) ↔ s.HasIncident anomaly service := by
  obtain ⟨pairs, hpairs, rfl⟩ := Option.map_eq_some_iff.1 h
  simp only [(chronological_perm _ _).mem_iff, List.mem_append, or_and_right, exists_or, or_assoc]
  refine or_congr ?_ (or_congr ?_ ?_)
  · constructor
    · rintro ⟨e, he, hincident⟩
      obtain ⟨pair, hpair, he⟩ := List.mem_flatten.1 he
      obtain ⟨x, hx, hxpair⟩ := (mem_mapM_iff hpairs).1 hpair
      exact ⟨x, hx, (exists_spanIncident_iff hxpair).1 ⟨e, he, hincident⟩⟩
    · rintro ⟨x, hx, hincident⟩
      obtain ⟨pair, hxpair⟩ := exists_of_mem_mapM hpairs hx
      obtain ⟨e, he, hincident⟩ := (exists_spanIncident_iff hxpair).2 hincident
      exact ⟨e, List.mem_flatten.2 ⟨pair, (mem_mapM_iff hpairs).2 ⟨x, hx, hxpair⟩, he⟩, hincident⟩
  · constructor
    · rintro ⟨e, he, hkind, hservice⟩
      obtain ⟨x, hx, rfl⟩ := List.mem_map.1 he
      exact ⟨x, hx, hservice, logIncident_iff.1 hkind⟩
    · rintro ⟨x, hx, hservice, herror⟩
      exact ⟨_, List.mem_map_of_mem hx, logIncident_iff.2 herror, hservice⟩
  · constructor
    · rintro ⟨e, he, -, hservice⟩
      obtain ⟨p, hp, rfl⟩ := List.mem_map.1 he
      exact ⟨p.name, p, hp, congrArg (SeriesKey.mk · p.name) hservice⟩
    · rintro ⟨metric, p, hp, hkey⟩
      exact ⟨_, List.mem_map_of_mem hp, rfl, congrArg SeriesKey.service hkey⟩

theorem isAnomalous_of_mem_treatments {b : Buckets} {t : Treatment}
    (ht : t ∈ b.treatments s anomaly) (hactive : true ∈ t.active) :
    s.IsAnomalous anomaly t.series := by
  obtain ⟨key, -, rfl⟩ := List.mem_map.1 ht
  obtain ⟨i, -, hi⟩ := List.mem_map.1 hactive
  obtain ⟨p, hp, -⟩ := List.any_eq_true.1 hi
  obtain ⟨hp, hkey⟩ := List.mem_filter.1 hp
  exact ⟨p, hp, of_decide_eq_true hkey⟩

end Signals

end FlowCorrelation
