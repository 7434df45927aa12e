import FlowCorrelation.Proofs.Cause.Incident
import FlowCorrelation.Proofs.Context.Timeline

namespace FlowCorrelation

section

variable {α : Type} {f : α → α → α} {p : α → Prop}

theorem foldl_iff_forall (h : ∀ a b, p (f a b) ↔ p a ∧ p b) (a : α) (l : List α) :
    p (l.foldl f a) ↔ ∀ b ∈ a :: l, p b := by
  induction l generalizing a with
  | nil => simp
  | cons b l ih => simp [ih, h, and_assoc]

theorem foldl_iff_exists (h : ∀ a b, p (f a b) ↔ p a ∨ p b) (a : α) (l : List α) :
    p (l.foldl f a) ↔ ∃ b ∈ a :: l, p b := by
  induction l generalizing a with
  | nil => simp
  | cons b l ih => simp [ih, h, or_assoc]

end

namespace Instant

variable {a b t : Instant}

theorem earliest_lt_iff : earliest a b < t ↔ a < t ∨ b < t := by
  unfold earliest
  simp only [lt_iff]
  split <;> omega

theorem lt_earliest_iff : t < earliest a b ↔ t < a ∧ t < b := by
  unfold earliest
  simp only [lt_iff]
  split <;> omega

theorem latest_lt_iff : latest a b < t ↔ a < t ∧ b < t := by
  unfold latest
  simp only [lt_iff, le_iff]
  split <;> omega

theorem lt_latest_iff : t < latest a b ↔ t < a ∨ t < b := by
  unfold latest
  simp only [lt_iff, le_iff]
  split <;> omega

theorem foldl_earliest_lt_iff (a : Instant) (l : List Instant) :
    l.foldl earliest a < t ↔ ∃ b ∈ a :: l, b < t :=
  foldl_iff_exists (p := (· < t)) (fun _ _ ↦ earliest_lt_iff) a l

theorem lt_foldl_earliest_iff (a : Instant) (l : List Instant) :
    t < l.foldl earliest a ↔ ∀ b ∈ a :: l, t < b :=
  foldl_iff_forall (p := (t < ·)) (fun _ _ ↦ lt_earliest_iff) a l

theorem foldl_latest_lt_iff (a : Instant) (l : List Instant) :
    l.foldl latest a < t ↔ ∀ b ∈ a :: l, b < t :=
  foldl_iff_forall (p := (· < t)) (fun _ _ ↦ latest_lt_iff) a l

theorem lt_foldl_latest_iff (a : Instant) (l : List Instant) :
    t < l.foldl latest a ↔ ∃ b ∈ a :: l, t < b :=
  foldl_iff_exists (p := (t < ·)) (fun _ _ ↦ lt_latest_iff) a l

theorem le_shift {d : Int} (hd : 0 ≤ d) (t : Instant) : t ≤ t.shift d := by
  rw [le_iff]
  simp only [shift, Int.tdiv_eq_ediv_of_nonneg hd, Int.tmod_eq_emod_of_nonneg hd,
    Int.fdiv_eq_ediv_of_nonneg _ (by decide : (0 : Int) ≤ 1000000000),
    Int.fmod_eq_emod_of_nonneg _ (by decide : (0 : Int) ≤ 1000000000)]
  have hq : 0 ≤ d / 1000000000 := Int.ediv_nonneg hd (by decide)
  have hr : 0 ≤ d % 1000000000 := Int.emod_nonneg d (by decide)
  split
  · dsimp only
    omega
  · split <;> split <;> dsimp only <;> omega

end Instant

theorem Period.contains_between_iff {a b t : Instant} :
    (between a b).contains t ↔ ¬ (a < t ∧ b < t) ∧ ¬ (t < a ∧ t < b) := by
  unfold between
  split
  · rename_i h
    simp only [contains, Bool.and_eq_true, decide_eq_true_eq, Instant.lt_iff, Instant.le_iff] at h ⊢
    omega
  · rename_i h
    simp only [contains, Bool.and_eq_true, decide_eq_true_eq, Instant.lt_iff, Instant.le_iff] at h ⊢
    omega

theorem SpanRecord.le_of_endTime? {x : SpanRecord} {b : Instant} (hb : x.endTime? = some b)
    (hduration : 0 ≤ x.durationMicros) : x.timestamp ≤ b := by
  obtain ⟨-, rfl⟩ : _ ∧ x.timestamp.shift (x.durationMicros * 1000) = b :=
    Option.ite_none_right_eq_some.1 hb |>.imp_right Option.some.inj
  exact Instant.le_shift (by omega) x.timestamp

namespace Signals

/-- Whether a record begins at `a` and ends at `b`; only spans take time. -/
inductive Lasts (s : Signals) : Instant → Instant → Prop
  | span {x : SpanRecord} {b : Instant} (hx : x ∈ s.spans) (hb : x.endTime? = some b) :
      Lasts s x.timestamp b
  | log {x : LogEntry} (hx : x ∈ s.logs) : Lasts s x.timestamp x.timestamp
  | metric {x : MetricPoint} (hx : x ∈ s.metrics) : Lasts s x.timestamp x.timestamp

/-- Whether every record has ended before `t` and one began before, or every record begins after `t`
and one ends after. -/
def Misses (s : Signals) (t : Instant) : Prop :=
  ((∀ a b, s.Lasts a b → b < t) ∧ ∃ a b, s.Lasts a b ∧ a < t) ∨
    ((∀ a b, s.Lasts a b → t < a) ∧ ∃ a b, s.Lasts a b ∧ t < b)

variable {s : Signals} {a b t : Instant} {ends : List Instant}

theorem mem_starts : a ∈ s.starts ↔ (∃ x ∈ s.spans, x.timestamp = a) ∨
    (∃ x ∈ s.logs, x.timestamp = a) ∨ ∃ x ∈ s.metrics, x.timestamp = a := by
  simp [starts]

theorem mem_ends (hends : s.ends? = some ends) : b ∈ ends ↔
    (∃ x ∈ s.spans, x.endTime? = some b) ∨ (∃ x ∈ s.logs, x.timestamp = b) ∨
      ∃ x ∈ s.metrics, x.timestamp = b := by
  obtain ⟨l, hl, rfl⟩ := Option.map_eq_some_iff.1 hends
  simp [mem_mapM_iff hl]

theorem mem_starts_iff (hends : s.ends? = some ends) : a ∈ s.starts ↔ ∃ b, s.Lasts a b := by
  obtain ⟨l, hl, -⟩ := Option.map_eq_some_iff.1 hends
  rw [mem_starts]
  constructor
  · rintro (⟨x, hx, rfl⟩ | ⟨x, hx, rfl⟩ | ⟨x, hx, rfl⟩)
    · obtain ⟨b, hb⟩ := exists_of_mem_mapM hl hx
      exact ⟨b, .span hx hb⟩
    · exact ⟨_, .log hx⟩
    · exact ⟨_, .metric hx⟩
  · rintro ⟨b, h⟩
    cases h with
    | span hx hb => exact Or.inl ⟨_, hx, rfl⟩
    | log hx => exact Or.inr (Or.inl ⟨_, hx, rfl⟩)
    | metric hx => exact Or.inr (Or.inr ⟨_, hx, rfl⟩)

theorem mem_ends_iff (hends : s.ends? = some ends) : b ∈ ends ↔ ∃ a, s.Lasts a b := by
  rw [mem_ends hends]
  constructor
  · rintro (⟨x, hx, hb⟩ | ⟨x, hx, rfl⟩ | ⟨x, hx, rfl⟩)
    · exact ⟨_, .span hx hb⟩
    · exact ⟨_, .log hx⟩
    · exact ⟨_, .metric hx⟩
  · rintro ⟨a, h⟩
    cases h with
    | span hx hb => exact Or.inl ⟨_, hx, hb⟩
    | log hx => exact Or.inr (Or.inl ⟨_, hx, rfl⟩)
    | metric hx => exact Or.inr (Or.inr ⟨_, hx, rfl⟩)

/-- The period of a flow with a record leaves out just the instants that it misses. -/
theorem contains_period_iff {now : Instant} {p : Period} (hp : s.period? now = some p)
    (hs : s.starts ≠ []) : p.contains t ↔ ¬ s.Misses t := by
  obtain ⟨ends, hends, rfl⟩ := Option.map_eq_some_iff.1 hp
  obtain ⟨first, starts, hstarts⟩ := List.exists_cons_of_ne_nil hs
  obtain ⟨b, hb⟩ := (mem_starts_iff hends).1 (hstarts ▸ List.mem_cons_self)
  obtain ⟨last, ends, rfl⟩ :=
    List.exists_cons_of_ne_nil (List.ne_nil_of_mem ((mem_ends_iff hends).2 ⟨first, hb⟩))
  have hbegin (a : Instant) : a ∈ first :: starts ↔ ∃ b, s.Lasts a b :=
    hstarts ▸ mem_starts_iff hends
  have hstop (b : Instant) : b ∈ last :: ends ↔ ∃ a, s.Lasts a b := mem_ends_iff hends
  rw [hstarts, Period.contains_between_iff, Instant.foldl_earliest_lt_iff,
    Instant.lt_foldl_earliest_iff, Instant.foldl_latest_lt_iff, Instant.lt_foldl_latest_iff]
  simp only [hbegin, hstop, Misses]
  -- What is left differs in the order of the two instants of a record.
  grind

theorem not_misses_of_lasts (h : s.Lasts a b) (hab : a ≤ b) : ¬ s.Misses a ∧ ¬ s.Misses b := by
  constructor
  · rintro (⟨hall, -⟩ | ⟨hall, -⟩)
    · exact Instant.not_lt.2 hab (hall a b h)
    · exact Instant.not_lt.2 (Instant.le_refl a) (hall a b h)
  · rintro (⟨hall, -⟩ | ⟨hall, -⟩)
    · exact Instant.not_lt.2 (Instant.le_refl b) (hall a b h)
    · exact Instant.not_lt.2 hab (hall a b h)

theorem le_of_lasts (hspans : ∀ x ∈ s.spans, 0 ≤ x.durationMicros) (h : s.Lasts a b) : a ≤ b := by
  cases h with
  | span hx hb => exact SpanRecord.le_of_endTime? hb (hspans _ hx)
  | log hx => exact Instant.le_refl _
  | metric hx => exact Instant.le_refl _

theorem mem_starts_of_mem_timeline {flags : List Bool} {e : TimelineEvent}
    (he : e ∈ s.timeline flags) : e.timestamp ∈ s.starts := by
  have he := (s.arranges_timeline flags).perm.mem_iff.1 he
  rw [mem_starts]
  rcases List.mem_append.1 he with he | he
  · rcases List.mem_append.1 he with he | he
    · obtain ⟨x, hx, rfl⟩ := List.mem_map.1 he
      exact Or.inl ⟨x, hx, rfl⟩
    · obtain ⟨x, hx, rfl⟩ := List.mem_map.1 he
      exact Or.inr (Or.inl ⟨x, hx, rfl⟩)
  · obtain ⟨p, hp, rfl⟩ := List.mem_map.1 he
    exact Or.inr (Or.inr ⟨_, mem_of_mem_flagged hp, rfl⟩)

theorem lasts_of_mem_causeEvents {anomaly : AnomalySettings} {events : List CauseEvent}
    (hevents : s.causeEvents? anomaly = some events) {e : CauseEvent} (he : e ∈ events) :
    ∃ t, s.Lasts e.timestamp t ∨ s.Lasts t e.timestamp := by
  obtain ⟨pairs, hpairs, rfl⟩ := Option.map_eq_some_iff.1 hevents
  have he := (chronological_perm _ _).mem_iff.1 he
  rcases List.mem_append.1 he with he | he
  · rcases List.mem_append.1 he with he | he
    · obtain ⟨pair, hpair, he⟩ := List.mem_flatten.1 he
      obtain ⟨x, hx, hxpair⟩ := (mem_mapM_iff hpairs).1 hpair
      obtain ⟨stop, hstop, rfl⟩ := Option.map_eq_some_iff.1 hxpair
      rcases List.mem_pair.1 he with rfl | rfl
      · exact ⟨stop, Or.inl (.span hx hstop)⟩
      · refine ⟨x.timestamp, Or.inr ?_⟩
        split <;> exact .span hx hstop
    · obtain ⟨x, hx, rfl⟩ := List.mem_map.1 he
      exact ⟨_, Or.inl (.log hx)⟩
  · obtain ⟨p, hp, rfl⟩ := List.mem_map.1 he
    exact ⟨_, Or.inl (.metric (mem_of_mem_flagged hp))⟩

/-- Records whose spans end within the calendar make a context with a period, in order, that contains
an instant exactly if the records do not miss it. Events are at the beginning or the end of a record,
and the period contains both of every record that does not end before it begins. So it contains all
events if no span has a negative duration. -/
theorem period_covers_unless_missed (id : String) (s : Signals) (anomaly : AnomalySettings)
    (now : Instant) (hs : s.spans ≠ [] ∨ s.logs ≠ [] ∨ s.metrics ≠ [])
    (hends : ∀ x ∈ s.spans, ∃ b, x.endTime? = some b) :
    ∃ c events, FlowContext.assemble? id s anomaly now = some c ∧
      s.causeEvents? anomaly = some events ∧ c.period.start ≤ c.period.stop ∧
      (∀ t, c.period.contains t ↔ ¬ s.Misses t) ∧
      (∀ a b, s.Lasts a b → a ≤ b → c.period.contains a ∧ c.period.contains b) ∧
      (∀ e ∈ c.timeline, ∃ b, s.Lasts e.timestamp b) ∧
      (∀ e ∈ events, ∃ t, s.Lasts e.timestamp t ∨ s.Lasts t e.timestamp) ∧
      ((∀ x ∈ s.spans, 0 ≤ x.durationMicros) →
        (∀ e ∈ c.timeline, c.period.contains e.timestamp) ∧
          ∀ e ∈ events, c.period.contains e.timestamp) := by
  have hnone : ¬ ∃ x ∈ s.spans, x.endTime? = none := by
    rintro ⟨x, hx, hxnone⟩
    obtain ⟨b, hb⟩ := hends x hx
    cases hxnone.symm.trans hb
  obtain ⟨c, hc⟩ := Option.ne_none_iff_exists'.1 (mt FlowContext.assemble?_eq_none_iff.1 hnone)
  obtain ⟨events, hevents⟩ := Option.ne_none_iff_exists'.1 (mt causeEvents?_eq_none_iff.1 hnone)
  obtain ⟨ends, hends⟩ := Option.ne_none_iff_exists'.1 (mt ends?_eq_none_iff.1 hnone)
  obtain ⟨period, hperiod, rfl⟩ := Option.map_eq_some_iff.1 hc
  have hstarts : s.starts ≠ [] := by
    rcases hs with h | h | h <;> simp [starts, h]
  have hcontains (t : Instant) : period.contains t ↔ ¬ s.Misses t :=
    contains_period_iff hperiod hstarts
  have hkept (a b : Instant) (h : s.Lasts a b) (hab : a ≤ b) :
      period.contains a ∧ period.contains b :=
    (not_misses_of_lasts h hab).imp (hcontains a).2 (hcontains b).2
  have htimeline (e : TimelineEvent) (he : e ∈ s.timeline (anomaly.detect s.metrics)) :
      ∃ b, s.Lasts e.timestamp b := (mem_starts_iff hends).1 (mem_starts_of_mem_timeline he)
  refine ⟨_, events, hc, hevents, period.ordered, hcontains, hkept, htimeline,
    fun e he ↦ lasts_of_mem_causeEvents hevents he, fun hspans ↦ ⟨fun e he ↦ ?_, fun e he ↦ ?_⟩⟩
  · obtain ⟨b, hb⟩ := htimeline e he
    exact (hkept _ _ hb (le_of_lasts hspans hb)).1
  · obtain ⟨t, ht | ht⟩ := lasts_of_mem_causeEvents hevents he
    · exact (hkept _ _ ht (le_of_lasts hspans ht)).1
    · exact (hkept _ _ ht (le_of_lasts hspans ht)).2

/-- A log entry between the end and the beginning of a span that runs backward: the period is that of
the entry and misses both ends of the span. -/
theorem period_covers_log_within_backward_span :
    let x : SpanRecord :=
      { timestamp := ⟨10, 0⟩, service := "s", name := "n", durationMs := -5000 }
    let l : LogEntry := { timestamp := ⟨7, 0⟩, service := "s" }
    let s : Signals := ⟨[x], [l], []⟩
    ∃ c, FlowContext.assemble? "flow-1" s {} ⟨0, 0⟩ = some c ∧ c.period.contains ⟨7, 0⟩ ∧
      ¬ c.period.contains ⟨10, 0⟩ ∧ ¬ c.period.contains ⟨5, 0⟩ := by
  intro x l s
  have hx : x.endTime? = some ⟨5, 0⟩ := by decide +kernel
  obtain ⟨c, -, hc, -, -, hcontains, -⟩ :=
    period_covers_unless_missed "flow-1" s {} ⟨0, 0⟩ (Or.inl (List.cons_ne_nil x []))
      (fun y hy ↦ ⟨⟨5, 0⟩, List.mem_singleton.1 hy ▸ hx⟩)
  have hspan : s.Lasts x.timestamp ⟨5, 0⟩ := .span (List.mem_singleton_self x) hx
  have hlog : s.Lasts l.timestamp l.timestamp := .log (List.mem_singleton_self l)
  have hwithin (a b : Instant) (h : s.Lasts a b) : b < ⟨10, 0⟩ ∧ ⟨5, 0⟩ < a := by
    cases h with
    | span hy hb =>
      obtain rfl := List.mem_singleton.1 hy
      obtain rfl := Option.some.inj (hx.symm.trans hb)
      decide
    | log hy =>
      obtain rfl := List.mem_singleton.1 hy
      decide
    | metric hp => cases hp
  refine ⟨c, hc, (hcontains _).2 (not_misses_of_lasts hlog (Instant.le_refl _)).1, ?_, ?_⟩
  · intro h
    exact (hcontains _).1 h (Or.inl ⟨fun a b hab ↦ (hwithin a b hab).1, _, _, hlog, by decide⟩)
  · intro h
    exact (hcontains _).1 h (Or.inr ⟨fun a b hab ↦ (hwithin a b hab).2, _, _, hlog, by decide⟩)

/-- A span that begins after all others have ended and ends before it begins: its event lies outside
the period. -/
theorem timeline_event_outside_period :
    let brief : SpanRecord :=
      { timestamp := ⟨1767225610, 0⟩, service := "s", name := "m", durationMs := 10000 }
    let backward : SpanRecord :=
      { timestamp := ⟨1767225700, 0⟩, service := "s", name := "n", durationMs := -50000 }
    let s : Signals := ⟨[backward, brief], [], []⟩
    brief.endTime? = some ⟨1767225620, 0⟩ ∧ backward.endTime? = some ⟨1767225650, 0⟩ ∧
      ∃ c, FlowContext.assemble? "flow-1" s {} ⟨0, 0⟩ = some c ∧
        ∃ e ∈ c.timeline, ¬ c.period.contains e.timestamp := by
  intro brief backward s
  have hbrief : brief.endTime? = some ⟨1767225620, 0⟩ := by decide +kernel
  have hbackward : backward.endTime? = some ⟨1767225650, 0⟩ := by decide +kernel
  refine ⟨hbrief, hbackward, ?_⟩
  have hperiod : s.period? ⟨0, 0⟩ =
      some (.between ⟨1767225610, 0⟩ ⟨1767225650, 0⟩) := by
    decide +kernel
  refine ⟨_, congrArg (Option.map _) hperiod, backward.timelineEvent, ?_, by decide⟩
  exact (s.arranges_timeline _).perm.mem_iff.2 List.mem_cons_self

end Signals

end FlowCorrelation
