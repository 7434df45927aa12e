import FlowCorrelation.Proofs.Cause.Incident
import FlowCorrelation.Proofs.Context.ServiceCall
import FlowCorrelation.Proofs.Context.Timeline
import FlowCorrelation.Proofs.ServiceGraph

namespace FlowCorrelation

namespace Signals

variable {s : Signals} {flags : List Bool} {anomaly : AnomalySettings} {name : String}

theorem countP_isError_timeline (s : Signals) (flags : List Bool) :
    (s.timeline flags).countP (·.isError) = s.errorCount := by
  rw [(s.arranges_timeline flags).perm.countP_eq, events, List.countP_append, List.countP_append,
    List.countP_map, List.countP_map, List.countP_map, errorCount]
  have hmetrics : (flagged s.metrics flags).countP ((·.isError) ∘ MetricPoint.timelineEvent) = 0 :=
    List.countP_eq_zero.2 (fun p _ h ↦ Bool.false_ne_true h)
  rw [hmetrics]
  rfl

theorem countP_anomaly_timeline (h : flags.length = s.metrics.length) :
    (s.timeline flags).countP (·.kind = .metricAnomaly) = flags.count true := by
  rw [List.countP_eq_length_filter, (s.filter_kind_timeline_perm flags _).length_eq,
    filter_kind_events, List.length_map, length_flagged h]

theorem length_timeline (h : flags.length = s.metrics.length) :
    (s.timeline flags).length = s.spans.length + s.logs.length + flags.count true := by
  rw [(s.arranges_timeline flags).perm.length_eq, events, List.length_append, List.length_append,
    List.length_map, List.length_map, List.length_map, length_flagged h]

theorem durationMs_summary {first last : TimelineEvent}
    (hfirst : (s.timeline flags).head? = some first)
    (hlast : (s.timeline flags).getLast? = some last) :
    (s.summary flags).durationMs = millisSince last.timestamp first.timestamp := by
  unfold summary
  cases htimeline : s.timeline flags with
  | nil => simp [htimeline] at hfirst
  | cons e l =>
    rw [htimeline] at hfirst hlast
    obtain rfl := Option.some.inj hfirst
    rw [List.getLast?_eq_some_getLast (List.cons_ne_nil e l)] at hlast
    obtain rfl := Option.some.inj hlast
    rfl

theorem mem_summary_services : name ∈ (s.summary flags).services ↔ name ∈ s.services := by
  rw [summary, ← List.mem_toFinset, ← Dict.keySet, Dict.keySet_ofNames, List.mem_toFinset]

theorem mem_services_iff : name ∈ s.services ↔ (∃ x ∈ s.spans, x.service = name) ∨
    (∃ x ∈ s.logs, x.service = name) ∨ ∃ x ∈ s.metrics, x.service = name := by
  simp only [services, List.mem_append, List.mem_map, or_assoc]

theorem service_mem_of_mem_timeline {e : TimelineEvent} (h : e ∈ s.timeline flags) :
    e.service ∈ s.services := by
  rw [(s.arranges_timeline flags).perm.mem_iff, events, List.mem_append, List.mem_append] at h
  rcases h with (h | h) | h <;> obtain ⟨x, hx, rfl⟩ := List.mem_map.1 h
  · exact mem_services_iff.2 (Or.inl ⟨x, hx, rfl⟩)
  · exact mem_services_iff.2 (Or.inr (Or.inl ⟨x, hx, rfl⟩))
  · exact mem_services_iff.2 (Or.inr (Or.inr ⟨x, mem_of_mem_flagged hx, rfl⟩))

theorem ends_mem_of_mem_ofSpans {x : ServiceCall Float} (h : x ∈ ServiceCall.ofSpans s.spans) :
    x.source ∈ s.services ∧ x.target ∈ s.services := by
  obtain ⟨child, hchild, hcaller, htarget⟩ :=
    ServiceCall.exists_mem_ofSpans_iff.1 ⟨x, h, rfl, rfl⟩
  obtain ⟨parent, hparent, -, hsource, -⟩ := ServiceCall.exists_parent_of_caller? hcaller
  exact ⟨mem_services_iff.2 (Or.inl ⟨parent, hparent, hsource⟩),
    mem_services_iff.2 (Or.inl ⟨child, hchild, htarget⟩)⟩

/-- A span makes two events, of which the second is an incident if the span failed. -/
theorem count_spanEvents {x : SpanRecord} {pair : List CauseEvent} (h : x.causeEvents? = some pair) :
    pair.length = 2 ∧ pair.countP (·.kind.isIncident) = if x.isError then 1 else 0 := by
  obtain ⟨stop, -, rfl⟩ := Option.map_eq_some_iff.1 h
  cases hx : x.isError <;> exact ⟨rfl, rfl⟩

theorem count_spansEvents {spans : List SpanRecord} {pairs : List (List CauseEvent)}
    (h : spans.mapM SpanRecord.causeEvents? = some pairs) :
    pairs.flatten.length = 2 * spans.length ∧
      pairs.flatten.countP (·.kind.isIncident) = spans.countP (·.isError) := by
  induction spans generalizing pairs with
  | nil =>
    cases h
    exact ⟨rfl, rfl⟩
  | cons x spans ih =>
    rw [List.mapM_cons] at h
    obtain ⟨pair, hpair, h⟩ := Option.bind_eq_some_iff.1 h
    obtain ⟨rest, hrest, h⟩ := Option.bind_eq_some_iff.1 h
    cases h
    obtain ⟨hlength, hcount⟩ := count_spanEvents hpair
    obtain ⟨hlength', hcount'⟩ := ih hrest
    rw [List.flatten_cons, List.length_append, List.countP_append, List.length_cons,
      List.countP_cons, hlength, hcount, hlength', hcount']
    exact ⟨by omega, by omega⟩

theorem count_causeEvents {events : List CauseEvent} (h : s.causeEvents? anomaly = some events) :
    events.length = 2 * s.spans.length + s.logs.length + (anomaly.detect s.metrics).count true ∧
      events.countP (·.kind.isIncident) =
        s.errorCount + (anomaly.detect s.metrics).count true := by
  obtain ⟨pairs, hpairs, rfl⟩ := Option.map_eq_some_iff.1 h
  obtain ⟨hlength, hcount⟩ := count_spansEvents hpairs
  have hflagged := length_flagged (anomaly.length_detect s.metrics)
  have hlogs : s.logs.countP ((·.kind.isIncident) ∘ LogEntry.causeEvent) =
      s.logs.countP (·.isError) := List.countP_congr (fun x _ ↦ logIncident_iff)
  have hmetrics (l : List MetricPoint) :
      l.countP ((·.kind.isIncident) ∘ MetricPoint.causeEvent) = l.length :=
    List.countP_eq_length.2 (fun _ _ ↦ rfl)
  constructor
  · rw [(chronological_perm _ _).length_eq, List.length_append, List.length_append, List.length_map,
      List.length_map, hlength, hflagged]
  · rw [(chronological_perm _ _).countP_eq, List.countP_append, List.countP_append, List.countP_map,
      List.countP_map, hcount, hlogs, hmetrics, hflagged, errorCount]

end Signals

/-- Whether the views of a flow agree with each other and with its records. -/
structure FlowContext.Agrees (c : FlowContext) (anomaly : AnomalySettings) : Prop where
  total_spans : c.summary.totalSpans = c.signals.spans.length
  total_logs : c.summary.totalLogs = c.signals.logs.length
  total_metrics : c.summary.totalMetrics = c.signals.metrics.length
  /-- Errors are the events that are shown as errors. -/
  error_count : c.summary.errorCount = c.timeline.countP (·.isError)
  anomaly_count : c.summary.anomalyCount = c.timeline.countP (·.kind = .metricAnomaly)
  length_timeline :
    c.summary.totalSpans + c.summary.totalLogs + c.summary.anomalyCount = c.timeline.length
  duration : ∀ first last, c.timeline.head? = some first → c.timeline.getLast? = some last →
    c.summary.durationMs = millisSince last.timestamp first.timestamp
  duration_of_nil : c.timeline = [] → c.summary.durationMs = 0
  ascending_services : c.summary.services.Pairwise (· < ·)
  mem_services : ∀ name, name ∈ c.summary.services ↔
    (∃ x ∈ c.signals.spans, x.service = name) ∨ (∃ x ∈ c.signals.logs, x.service = name) ∨
      ∃ x ∈ c.signals.metrics, x.service = name
  event_service : ∀ e ∈ c.timeline, e.service ∈ c.summary.services
  call_services : ∀ x ∈ c.calls, x.source ∈ c.summary.services ∧ x.target ∈ c.summary.services
  /-- The nodes of the graph are the services of the summary, in the same order. -/
  nodes : (ServiceGraph.ofContext c).services = c.summary.services
  callers : ∀ a b, a ∈ (ServiceGraph.ofContext c).callers b ↔
    ∃ x ∈ c.calls, x.source = a ∧ x.target = b
  callees : ∀ a b, b ∈ (ServiceGraph.ofContext c).callees a ↔
    ∃ x ∈ c.calls, x.source = a ∧ x.target = b
  inverse : ∀ a b,
    a ∈ (ServiceGraph.ofContext c).callers b ↔ b ∈ (ServiceGraph.ofContext c).callees a
  /-- Two services are connected by a call in either direction. -/
  connected : ∀ a b, (ServiceGraph.ofContext c).connected a b ↔
    ∃ x ∈ c.calls, x.source = a ∧ x.target = b ∨ x.source = b ∧ x.target = a
  /-- There are events to look for causes, two for each span, and as many incidents among them as
  there are errors and anomalies. -/
  events : ∃ events, c.signals.causeEvents? anomaly = some events ∧
    events.length = 2 * c.summary.totalSpans + c.summary.totalLogs + c.summary.anomalyCount ∧
    events.countP (·.kind.isIncident) = c.summary.errorCount + c.summary.anomalyCount
  service_count : c.summary.serviceCount = c.summary.services.length
  has_errors : c.summary.hasErrors ↔ 0 < c.summary.errorCount

namespace FlowContext

variable {id : String} {s : Signals} {anomaly : AnomalySettings} {now : Instant} {c : FlowContext}

theorem connected_ofContext {a b : String} : (ServiceGraph.ofContext c).connected a b ↔
    ∃ x ∈ c.calls, x.source = a ∧ x.target = b ∨ x.source = b ∧ x.target = a := by
  rw [ServiceGraph.connected, Bool.or_eq_true, ServiceGraph.hasCall_ofContext,
    ServiceGraph.hasCall_ofContext, ← exists_or]
  simp only [and_or_left]

theorem services_ofContext (hcalls : ∀ x ∈ c.calls,
    x.source ∈ c.summary.services ∧ x.target ∈ c.summary.services)
    (hservices : c.summary.services.Pairwise (· < ·)) :
    (ServiceGraph.ofContext c).services = c.summary.services := by
  refine Dict.keys_eq_of_mem_iff hservices (fun name ↦ ?_)
  refine ServiceGraph.mem_services_ofContext.trans (or_iff_right_of_imp ?_)
  rintro ⟨x, hx, rfl | rfl⟩
  · exact (hcalls x hx).1
  · exact (hcalls x hx).2

theorem exists_causeEvents (h : assemble? id s anomaly now = some c) :
    ∃ events, s.causeEvents? anomaly = some events := by
  refine Option.ne_none_iff_exists'.1 (fun hnone ↦ ?_)
  rw [assemble?_eq_none_iff.2 (Signals.causeEvents?_eq_none_iff.1 hnone)] at h
  cases h

/-- A context that is put together from any records holds these records, and all its views agree: the
summary counts what the timeline shows, its services are those of the records and the nodes of the
service graph, the graph shows the calls, and the events among which causes are sought count the same
errors and anomalies. Only a span that ends outside the calendar keeps records from being put
together. -/
theorem views_agree (id : String) (s : Signals) (anomaly : AnomalySettings) (now : Instant) :
    (assemble? id s anomaly now = none ↔ ∃ x ∈ s.spans, x.endTime? = none) ∧
      ∀ c, assemble? id s anomaly now = some c → c.signals = s ∧ c.Agrees anomaly := by
  refine ⟨assemble?_eq_none_iff, fun c hc ↦ ⟨signals_of_assemble? hc, ?_⟩⟩
  obtain ⟨events, hevents⟩ := exists_causeEvents hc
  obtain ⟨hlength, hincidents⟩ := Signals.count_causeEvents hevents
  obtain ⟨period, -, rfl⟩ := Option.map_eq_some_iff.1 hc
  have hflags : (anomaly.detect s.metrics).length = s.metrics.length :=
    anomaly.length_detect s.metrics
  have hcalls : ∀ x ∈ (ServiceCall.ofSpans s.spans : List (ServiceCall Float)),
      x.source ∈ (s.summary (anomaly.detect s.metrics)).services ∧
        x.target ∈ (s.summary (anomaly.detect s.metrics)).services := fun x hx ↦
    (Signals.ends_mem_of_mem_ofSpans hx).imp Signals.mem_summary_services.2
      Signals.mem_summary_services.2
  have hservices : (s.summary (anomaly.detect s.metrics)).services.Pairwise (· < ·) :=
    (Dict.ofNames s.services).pairwise_keys
  exact
    { total_spans := rfl
      total_logs := rfl
      total_metrics := rfl
      error_count := (s.countP_isError_timeline _).symm
      anomaly_count := (Signals.countP_anomaly_timeline hflags).symm
      length_timeline := (Signals.length_timeline hflags).symm
      duration := fun first last ↦ Signals.durationMs_summary
      duration_of_nil := fun hnil ↦ by
        dsimp only at hnil
        simp only [Signals.summary, hnil]
      ascending_services := hservices
      mem_services := fun name ↦ Signals.mem_summary_services.trans Signals.mem_services_iff
      event_service := fun e he ↦
        Signals.mem_summary_services.2 (Signals.service_mem_of_mem_timeline he)
      call_services := hcalls
      nodes := services_ofContext hcalls hservices
      callers := fun a b ↦ ServiceGraph.mem_callers_iff.trans ServiceGraph.hasCall_ofContext
      callees := fun a b ↦ ServiceGraph.mem_callees_iff.trans ServiceGraph.hasCall_ofContext
      inverse := fun a b ↦ ServiceGraph.mem_callers_iff.trans ServiceGraph.mem_callees_iff.symm
      connected := fun a b ↦ connected_ofContext
      events := ⟨events, hevents, hlength, hincidents⟩
      service_count := (Dict.length_keys _).symm
      has_errors := decide_eq_true_iff }

/-- A call that failed, an error that was logged and an anomalous metric: four events of which two are
errors, and three incidents among the six events among which causes are sought. -/
theorem views_of_failed_call :
    let gateway : SpanRecord :=
      { timestamp := ⟨0, 0⟩, service := "gateway", name := "request", spanId := some "1" }
    let orders : SpanRecord :=
      { timestamp := ⟨1, 0⟩, service := "orders", name := "reserve", spanId := some "2"
        parentSpanId := some "1", status := .error }
    let log : LogEntry := { timestamp := ⟨1, 0⟩, service := "orders", severity := .error }
    let point : MetricPoint :=
      { timestamp := ⟨2, 0⟩, service := "db", name := "wait", value := 9, anomalyScore := some 1 }
    let s : Signals := ⟨[gateway, orders], [log], [point]⟩
    ∃ c, assemble? "flow-1" s {} ⟨0, 0⟩ = some c ∧ c.timeline.length = 4 ∧
      c.timeline.countP (·.isError) = 2 ∧
      (ServiceGraph.ofContext c).services = ["db", "gateway", "orders"] ∧
      (ServiceGraph.ofContext c).connected "orders" "gateway" ∧
      ∃ events, s.causeEvents? {} = some events ∧ events.length = 6 ∧
        events.countP (·.kind.isIncident) = 3 := by
  intro gateway orders log point s
  obtain ⟨c, hc⟩ : ∃ c, assemble? "flow-1" s {} ⟨0, 0⟩ = some c :=
    Option.isSome_iff_exists.1 (by decide +kernel)
  obtain ⟨-, hviews⟩ := views_agree "flow-1" s {} ⟨0, 0⟩
  obtain ⟨hsignals, h⟩ := hviews c hc
  obtain ⟨hsummary, hcalls⟩ : c.summary = s.summary (({} : AnomalySettings).detect s.metrics) ∧
      c.calls = ServiceCall.ofSpans s.spans := by
    obtain ⟨period, -, rfl⟩ := Option.map_eq_some_iff.1 hc
    exact ⟨rfl, rfl⟩
  obtain ⟨events, hevents, hlength, hincidents⟩ := h.events
  refine ⟨c, hc, ?_, ?_, ?_, ?_, events, hsignals ▸ hevents, ?_, ?_⟩
  · rw [← h.length_timeline, hsummary]
    decide +kernel
  · rw [← h.error_count, hsummary]
    decide +kernel
  · rw [h.nodes, hsummary]
    decide +kernel
  · rw [h.connected, hcalls]
    decide +kernel
  · rw [hlength, hsummary]
    decide +kernel
  · rw [hincidents, hsummary]
    decide +kernel

end FlowContext

end FlowCorrelation
