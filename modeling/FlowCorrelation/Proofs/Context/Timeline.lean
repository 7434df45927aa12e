import FlowCorrelation.Context.Timeline
import FlowCorrelation.Proofs.Calendar.Stability
import Mathlib.Data.List.Perm.Basic

namespace FlowCorrelation

theorem flagged_eq_map_fst {α : Type} (l : List α) (flags : List Bool) :
    flagged l flags = (l.zipIdx.filter (fun x ↦ flags[x.2]? = some true)).map Prod.fst := by
  -- The elements from the index `n` on stand beside the flags that are left.
  have h (l : List α) (n : Nat) : flagged l (flags.drop n) =
      ((l.zipIdx n).filter (fun x ↦ flags[x.2]? = some true)).map Prod.fst := by
    induction l generalizing n with
    | nil => rfl
    | cons a l ih =>
      rw [List.zipIdx_cons, List.filter_cons]
      cases hflag : flags[n]? with
      | none =>
        have hdone : flags.drop n = [] := List.drop_eq_nil_iff.2 (List.getElem?_eq_none_iff.1 hflag)
        have hrest : flags.drop (n + 1) = [] := by rw [← List.drop_drop, hdone, List.drop_nil]
        rw [if_neg (by simp), ← ih (n + 1), hdone, hrest]
        simp [flagged]
      | some flag =>
        obtain ⟨hn, rfl⟩ := List.getElem?_eq_some_iff.1 hflag
        rw [List.drop_eq_getElem_cons hn]
        cases flags[n] <;> simp [flagged, ← ih]
  exact h l 0

theorem length_flagged {α : Type} {l : List α} {flags : List Bool} (h : flags.length = l.length) :
    (flagged l flags).length = flags.count true := by
  induction l generalizing flags with
  | nil =>
    obtain rfl := List.length_eq_zero_iff.1 h
    rfl
  | cons a l ih =>
    cases flags with
    | nil => cases h
    | cons flag flags =>
      have hrest := ih (Nat.succ.inj h)
      cases flag <;> simpa [flagged] using hrest

theorem mem_of_mem_flagged {α : Type} {l : List α} {flags : List Bool} {a : α}
    (h : a ∈ flagged l flags) : a ∈ l := by
  obtain ⟨⟨b, flag⟩, hmem, hflag⟩ := List.mem_filterMap.1 h
  obtain ⟨-, heq⟩ := Option.ite_none_right_eq_some.1 hflag
  cases heq
  exact (List.of_mem_zip hmem).1

/-- Arrangements of the same elements show the same times, and differ only in the order of what is
simultaneous. -/
theorem Arranges.eq_times_of_perm {α : Type} {time : α → Instant} {l l' r r' : List α}
    (h : Arranges time l r) (h' : Arranges time l' r') (hperm : l.Perm l') :
    r.map time = r'.map time ∧ ∀ t, (r.filter (time · = t)).Perm (r'.filter (time · = t)) := by
  have hrr' : r.Perm r' := (h.perm.trans hperm).trans h'.perm.symm
  refine ⟨?_, fun t ↦ hrr'.filter _⟩
  exact (hrr'.map time).eq_of_pairwise (fun _ _ _ _ ↦ Instant.le_antisymm)
    (List.pairwise_map.2 h.ascending) (List.pairwise_map.2 h'.ascending)

namespace Signals

variable {s s' : Signals} {flags flags' : List Bool}

theorem arranges_timeline (s : Signals) (flags : List Bool) :
    Arranges TimelineEvent.timestamp (s.events flags) (s.timeline flags) :=
  arranges_chronological TimelineEvent.timestamp (s.events flags)

theorem events_perm (hspans : s.spans.Perm s'.spans) (hlogs : s.logs.Perm s'.logs)
    (hmetrics : (s.metrics.zip flags).Perm (s'.metrics.zip flags')) :
    (s.events flags).Perm (s'.events flags') :=
  ((hspans.map _).append (hlogs.map _)).append ((hmetrics.filterMap _).map _)

theorem filter_kind_events (s : Signals) (flags : List Bool) (k : EventKind) :
    (s.events flags).filter (·.kind = k) = match k with
      | .span => s.spans.map SpanRecord.timelineEvent
      | .log => s.logs.map LogEntry.timelineEvent
      | .metricAnomaly => (flagged s.metrics flags).map MetricPoint.timelineEvent := by
  cases k <;> simp [events, List.filter_append, List.filter_map, Function.comp_def,
    SpanRecord.timelineEvent, LogEntry.timelineEvent, MetricPoint.timelineEvent]

/-- What happens at one time stands in the order of the sources and of their records. -/
theorem filter_timestamp_timeline (s : Signals) (flags : List Bool) (t : Instant) :
    (s.timeline flags).filter (·.timestamp = t) =
      (s.spans.filter (·.timestamp = t)).map SpanRecord.timelineEvent ++
        (s.logs.filter (·.timestamp = t)).map LogEntry.timelineEvent ++
          ((flagged s.metrics flags).filter (·.timestamp = t)).map MetricPoint.timelineEvent := by
  rw [(s.arranges_timeline flags).stable, events, List.filter_append, List.filter_append,
    List.filter_map, List.filter_map, List.filter_map]
  rfl

theorem filter_kind_timeline_perm (s : Signals) (flags : List Bool) (k : EventKind) :
    ((s.timeline flags).filter (·.kind = k)).Perm ((s.events flags).filter (·.kind = k)) :=
  (s.arranges_timeline flags).perm.filter _

/-- A timeline is a stable merge. It ascends in time and holds one event for each span, each log entry
and each metric point whose flag is set, and nothing else; simultaneous events keep the order of their
sources and of their records. The same records in another order, each metric point with its flag,
give a timeline that differs at most in the order of simultaneous events. -/
theorem timeline_is_stable_merge (s : Signals) (flags : List Bool) :
    let points := (s.metrics.zipIdx.filter (fun x ↦ flags[x.2]? = some true)).map Prod.fst
    (s.timeline flags).Pairwise (fun a b ↦ a.timestamp ≤ b.timestamp) ∧
    (s.timeline flags).Perm (s.spans.map SpanRecord.timelineEvent ++
      s.logs.map LogEntry.timelineEvent ++ points.map MetricPoint.timelineEvent) ∧
    ((s.timeline flags).filter (·.kind = .span)).Perm (s.spans.map SpanRecord.timelineEvent) ∧
    ((s.timeline flags).filter (·.kind = .log)).Perm (s.logs.map LogEntry.timelineEvent) ∧
    ((s.timeline flags).filter (·.kind = .metricAnomaly)).Perm
      (points.map MetricPoint.timelineEvent) ∧
    (flags.length = s.metrics.length → points.length = flags.count true) ∧
    (∀ t, (s.timeline flags).filter (·.timestamp = t) =
      (s.spans.filter (·.timestamp = t)).map SpanRecord.timelineEvent ++
        (s.logs.filter (·.timestamp = t)).map LogEntry.timelineEvent ++
          (points.filter (·.timestamp = t)).map MetricPoint.timelineEvent) ∧
    ∀ (s' : Signals) (flags' : List Bool), s.spans.Perm s'.spans → s.logs.Perm s'.logs →
      (s.metrics.zip flags).Perm (s'.metrics.zip flags') →
      (s.timeline flags).map (·.timestamp) = (s'.timeline flags').map (·.timestamp) ∧
      ∀ t, ((s.timeline flags).filter (·.timestamp = t)).Perm
        ((s'.timeline flags').filter (·.timestamp = t)) := by
  intro points
  have hpoints : points = flagged s.metrics flags := (flagged_eq_map_fst s.metrics flags).symm
  have hkind (k : EventKind) := s.filter_kind_events flags k ▸ s.filter_kind_timeline_perm flags k
  rw [hpoints]
  refine ⟨(s.arranges_timeline flags).ascending, (s.arranges_timeline flags).perm, hkind .span,
    hkind .log, hkind .metricAnomaly, length_flagged, s.filter_timestamp_timeline flags, ?_⟩
  intro s' flags' hspans hlogs hmetrics
  exact (s.arranges_timeline flags).eq_times_of_perm (s'.arranges_timeline flags')
    (events_perm hspans hlogs hmetrics)

/-- Two spans that start together change places in the timeline if they come in another order; the
point that is flagged keeps its place. -/
theorem timeline_of_reordered_records :
    let a : SpanRecord := { timestamp := ⟨1, 0⟩, service := "orders", name := "reserve" }
    let b : SpanRecord := { timestamp := ⟨1, 0⟩, service := "billing", name := "charge" }
    let l : LogEntry := { timestamp := ⟨0, 0⟩, service := "orders", body := "retrying" }
    let p : MetricPoint := { timestamp := ⟨1, 0⟩, service := "db", name := "wait", value := 9 }
    let q : MetricPoint := { timestamp := ⟨2, 0⟩, service := "db", name := "wait", value := 1 }
    let s : Signals := ⟨[a, b], [l], [p, q]⟩
    let s' : Signals := ⟨[b, a], [l], [q, p]⟩
    ((s.timeline [true, false]).filter (·.timestamp = ⟨1, 0⟩)).map (·.service) =
      ["orders", "billing", "db"] ∧
    ((s'.timeline [false, true]).filter (·.timestamp = ⟨1, 0⟩)).map (·.service) =
      ["billing", "orders", "db"] ∧
    (s.timeline [true, false]).map (·.timestamp) = (s'.timeline [false, true]).map (·.timestamp) ∧
    ∀ t, ((s.timeline [true, false]).filter (·.timestamp = t)).Perm
      ((s'.timeline [false, true]).filter (·.timestamp = t)) := by
  intro a b l p q s s'
  obtain ⟨-, -, -, -, -, -, hat, hreordered⟩ := timeline_is_stable_merge s [true, false]
  obtain ⟨-, -, -, -, -, -, hat', -⟩ := timeline_is_stable_merge s' [false, true]
  refine ⟨?_, ?_, hreordered s' [false, true] (List.Perm.swap _ _ _) (List.Perm.refl _)
    (List.Perm.swap _ _ _)⟩
  · rw [hat]
    decide +kernel
  · rw [hat']
    decide +kernel

end Signals

end FlowCorrelation
