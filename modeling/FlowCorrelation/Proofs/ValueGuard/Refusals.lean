import FlowCorrelation.Proofs.Total
import FlowCorrelation.Proofs.Transcript
import FlowCorrelation.Proofs.ValueGuard.Memory
import FlowCorrelation.Proofs.ValueGuard.SlidingWindow

namespace FlowCorrelation

namespace ValueGuard

variable {g : ValueGuard} {now : Instant} {name : String} {w : ValueWindow} {n : Nat}
  {refused : List String} {s : Sweep}

/-- How many values of the attribute were refused. -/
def refusalsOf (g : ValueGuard) (name : String) : Nat := (g.windowOf name).refusals

def liveCount (g : ValueGuard) : Nat := g.windows.total ValueWindow.size

theorem refusalsOf_withWindow (g : ValueGuard) (name k : String) (w : ValueWindow) :
    (g.withWindow name w).refusalsOf k = if name = k then w.refusals else g.refusalsOf k := by
  unfold refusalsOf
  rw [windowOf_withWindow]
  split <;> rfl

theorem total_refusals_withWindow (hw : w.refusals = g.refusalsOf name + n) :
    (g.withWindow name w).windows.total ValueWindow.refusals =
      g.windows.total ValueWindow.refusals + n := by
  have hold : ((g.windows.get? name).map ValueWindow.refusals).getD 0 = g.refusalsOf name := by
    unfold refusalsOf windowOf
    cases g.windows.get? name <;> rfl
  have htotal := Dict.total_insert ValueWindow.refusals g.windows name w
  rw [hold, hw] at htotal
  change (g.windows.insert name w).total _ = _
  omega

/-- A question changes one window. It is counted there and in all if the value is refused. -/
theorem exists_guard_allow_eq (g : ValueGuard) (now : Instant) (name value : String) :
    ∃ w, w.refusals = g.refusalsOf name ∧
      ((g.allow now name value).admitted = some false ∧
          (g.allow now name value).guard = g.refuse name w ∨
        (g.allow now name value).admitted ≠ some false ∧
          (g.allow now name value).guard = g.withWindow name w) := by
  by_cases hzero : g.limitFor name = 0
  · rw [allow_of_zero now value hzero]
    exact ⟨g.windowOf name, rfl, Or.inl ⟨rfl, rfl⟩⟩
  have hpos : 0 < g.limitFor name := Nat.pos_of_ne_zero hzero
  let told : ValueWindow := { g.windowOf name with lastSeen := (g.seen name).insert value now }
  by_cases hknown : (g.seen name).contains value
  · rw [allow_of_known now hpos hknown]
    exact ⟨told, rfl, Or.inr ⟨by simp, rfl⟩⟩
  by_cases hroom : (g.seen name).size < g.limitFor name
  · rw [allow_of_room now hknown hroom]
    exact ⟨told, rfl, Or.inr ⟨by simp, rfl⟩⟩
  have hfull : g.limitFor name ≤ (g.seen name).size := Nat.not_lt.1 hroom
  cases hc : now.sub? g.window with
  | none =>
    rw [allow_of_unanswered hpos hknown hfull hc]
    exact ⟨g.windowOf name, rfl, Or.inr ⟨by simp, rfl⟩⟩
  | some opened =>
    rw [allow_of_full hpos hknown hfull hc]
    let kept : ValueWindow := (g.windowOf name).evictBefore opened
    simp only [admitNew]
    split
    · exact ⟨{ kept with lastSeen := kept.lastSeen.insert value now }, rfl, Or.inr ⟨by simp, rfl⟩⟩
    · exact ⟨kept, rfl, Or.inl ⟨rfl, rfl⟩⟩

theorem refusals_allow (g : ValueGuard) (now : Instant) (name value : String) :
    (g.allow now name value).guard.refusals =
      g.refusals + if (g.allow now name value).admitted = some false then 1 else 0 := by
  obtain ⟨w, -, ⟨ha, hg⟩ | ⟨ha, hg⟩⟩ := g.exists_guard_allow_eq now name value
  · rw [hg, if_pos ha]
    rfl
  · rw [hg, if_neg ha]
    rfl

/-- The counts of a guard that has refused values of these attributes, one for each refusal. -/
structure Tallies (g : ValueGuard) (refused : List String) : Prop where
  all : g.refusals = refused.length
  each : ∀ name, g.refusalsOf name = refused.count name
  shown : g.windows.total ValueWindow.refusals = g.refusals

theorem Tallies.allow (h : g.Tallies refused) (now : Instant) (name value : String) :
    (g.allow now name value).guard.Tallies
      (refused ++ if (g.allow now name value).admitted = some false then [name] else []) := by
  obtain ⟨w, hw, ⟨ha, hg⟩ | ⟨ha, hg⟩⟩ := g.exists_guard_allow_eq now name value
  · rw [hg, if_pos ha]
    let w' : ValueWindow := { w with refusals := w.refusals + 1 }
    have hw' : w'.refusals = g.refusalsOf name + 1 := congrArg (· + 1) hw
    refine ⟨?_, fun k ↦ ?_, ?_⟩
    · rw [List.length_append, ← h.all]
      rfl
    · have hk : (g.refuse name w).refusalsOf k = _ := refusalsOf_withWindow g name k w'
      rw [hk, List.count_append, ← h.each, List.count_singleton]
      by_cases hname : name = k
      · subst hname
        simp [hw']
      · simp [hname]
    · exact (total_refusals_withWindow hw').trans (congrArg (· + 1) h.shown)
  · rw [hg, if_neg ha, List.append_nil]
    refine ⟨h.all, fun k ↦ ?_, ?_⟩
    · rw [refusalsOf_withWindow, ← h.each]
      split
      · rename_i hname
        rw [hw, hname]
      · rfl
    · exact (total_refusals_withWindow (n := 0) hw).trans h.shown

theorem refusalsOf_sweep (hs : g.sweep? now = some s) (name : String) :
    s.guard.refusalsOf name = g.refusalsOf name := by
  obtain ⟨opened, -, rfl⟩ := Option.map_eq_some_iff.1 hs
  simp only [refusalsOf, windowOf, Dict.get?_filter, Dict.get?_map]
  cases g.windows.get? name with
  | none => rfl
  | some w =>
    simp only [Option.map_some, Option.filter]
    split
    · rfl
    · rename_i hdropped
      -- A window that is dropped has no refusal, so an absent window reads the same.
      have hnone : ¬ 0 < w.refusals := fun hpos ↦ hdropped (by simp [ValueWindow.evictBefore, hpos])
      exact (Nat.eq_zero_of_not_pos hnone).symm

theorem Tallies.sweep (h : g.Tallies refused) (hs : g.sweep? now = some s) :
    s.guard.Tallies refused := by
  refine ⟨?_, fun name ↦ (refusalsOf_sweep hs name).trans (h.each name), ?_⟩
  · obtain ⟨opened, -, rfl⟩ := Option.map_eq_some_iff.1 hs
    exact h.all
  · obtain ⟨opened, -, rfl⟩ := Option.map_eq_some_iff.1 hs
    refine Eq.trans ?_ h.shown
    rw [Dict.total_filter (by simp), Dict.total_map_congr]
    exact fun _ _ ↦ rfl

theorem removed_add_liveCount (hs : g.sweep? now = some s) :
    s.removed + s.guard.liveCount = g.liveCount := by
  obtain ⟨opened, -, rfl⟩ := Option.map_eq_some_iff.1 hs
  have hless : (g.windows.map (fun _ w ↦ w.evictBefore opened)).total ValueWindow.size ≤
      g.liveCount :=
    Dict.total_map_le (fun _ w ↦ Dict.size_filter_le w.lastSeen _)
  have hkept := Dict.total_filter (d := g.windows.map (fun _ w ↦ w.evictBefore opened))
    (f := ValueWindow.size) (p := fun _ w ↦ w.size ≠ 0 || 0 < w.refusals) (by simp +contextual)
  have hsum (d : Dict ValueWindow) : liveTotal d = d.total ValueWindow.size :=
    List.sum_eq_foldl.symm
  simp only [liveCount, hkept, hsum] at hless ⊢
  omega

theorem sum_liveValues_entries (g : ValueGuard) :
    (g.entries.map GuardEntry.liveValues).sum = g.liveCount := by
  simp [entries, liveCount, Dict.total, Dict.values, Function.comp_def]

theorem sum_refusals_entries (g : ValueGuard) :
    (g.entries.map GuardEntry.refusals).sum = g.windows.total ValueWindow.refusals := by
  simp [entries, Dict.total, Dict.values, Function.comp_def]

theorem pairwise_name_entries (g : ValueGuard) : g.entries.Pairwise (fun x y ↦ x.name < y.name) :=
  List.pairwise_map.2 g.windows.ascending

theorem of_mem_entries {x : GuardEntry} (hx : x ∈ g.entries) :
    x.liveValues = g.liveValues x.name ∧ x.limit = g.limitFor x.name ∧
      x.refusals = g.refusalsOf x.name := by
  obtain ⟨⟨name, w⟩, hw, rfl⟩ := List.mem_map.1 hx
  have hwindow : g.windowOf name = w := by
    rw [windowOf, Dict.mem_entries_iff.1 hw, Option.getD_some]
  simp only [liveValues, refusalsOf, hwindow, and_self]

theorem mem_names_entries (h : 0 < g.refusalsOf name) : name ∈ g.entries.map GuardEntry.name := by
  have hsome : (g.windows.get? name).isSome := by
    unfold refusalsOf windowOf at h
    cases hw : g.windows.get? name with
    | none => simp [hw] at h
    | some w => rfl
  have hkey : name ∈ g.windows.keys := Dict.mem_keys_iff.2 hsome
  simpa [entries, Dict.keys, Function.comp_def] using hkey

end ValueGuard

namespace GuardHistory

variable {g : ValueGuard} {h : GuardHistory} {refused : List String}

def refusal (h : GuardHistory) (s : GuardStep) : List String :=
  match s.call with
  | .allow name value =>
    if (h.guard.allow s.clock name value).admitted = some false then [name] else []
  | .sweep _ => []

/-- The attributes of the questions in a run that were answered with a refusal, in order. -/
def refusals (g : ValueGuard) (l : List GuardStep) : List String := transcript step refusal ⟨g, []⟩ l

/-- Whether every value that the guard remembers was last admitted when the guard has it down as
last seen. -/
def Recorded (h : GuardHistory) : Prop :=
  ∀ name u t, (h.guard.seen name).get? u = some t → h.lastAdmitted name u = some t

theorem Recorded.allow (hr : h.Recorded) (clock : Instant) (name value : String) :
    (h.step ⟨clock, .allow name value⟩).Recorded := by
  intro k u t ht
  change ((h.guard.allow clock name value).guard.seen k).get? u = some t at ht
  by_cases hk : name = k
  · subst hk
    rw [lastAdmitted_step_allow]
    obtain ⟨kept, hkept, hallow⟩ := h.guard.seen_allow clock name value
    -- What was kept was there before, whether room had to be made or not.
    have hold (hu : kept.get? u = some t) : h.lastAdmitted name u = some t := by
      obtain rfl | ⟨opened, -, rfl⟩ := hkept
      · exact hr name u t hu
      · rw [Dict.get?_filter] at hu
        exact hr name u t (Option.filter_eq_some_iff.1 hu).1
    obtain ⟨ha, hseen⟩ | ⟨ha, -, -, hseen⟩ := hallow
    · rw [hseen, Function.update_self] at ht
      rw [if_neg (fun heq ↦ ha heq.1)]
      exact hold ht
    · rw [hseen, Function.update_self, Dict.get?_insert] at ht
      by_cases hu : value = u
      · rw [if_pos hu] at ht
        rw [if_pos ⟨ha, hu⟩, ht]
      · rw [if_neg hu] at ht
        rw [if_neg (fun heq ↦ hu heq.2)]
        exact hold ht
  · rw [lastAdmitted_step_of_not_asks (by simp [GuardStep.asks, hk])]
    rw [ValueGuard.seen_allow_of_ne clock value hk] at ht
    exact hr k u t ht

theorem Recorded.sweep (hr : h.Recorded) (clock time : Instant) :
    (h.step ⟨clock, .sweep time⟩).Recorded := by
  intro k u t ht
  simp only [GuardHistory.step] at ht
  cases hs : h.guard.sweep? time with
  | none =>
    rw [hs] at ht
    exact hr k u t ht
  | some w =>
    obtain ⟨-, opened, -, hseen⟩ := ValueGuard.seen_sweep hs
    rw [hs, Option.map_some, Option.getD_some, hseen, Dict.get?_filter] at ht
    exact hr k u t (Option.filter_eq_some_iff.1 ht).1

structure Kept (h : GuardHistory) (refused : List String) : Prop where
  bounded : ∀ name, (h.guard.seen name).size ≤ h.guard.limitFor name
  tallies : h.guard.Tallies refused
  recorded : h.Recorded

theorem Kept.step (hk : h.Kept refused) (s : GuardStep) :
    (h.step s).Kept (refused ++ h.refusal s) := by
  obtain ⟨clock, ⟨name, value⟩ | ⟨time⟩⟩ := s
  · refine ⟨?_, hk.tallies.allow clock name value, hk.recorded.allow clock name value⟩
    intro k
    exact (ValueGuard.size_seen_allow_le (hk.bounded k) clock name value).trans_eq
      (h.guard.limitFor_allow clock name value k).symm
  · refine ⟨?_, ?_, hk.recorded.sweep clock time⟩
    · intro k
      simp only [GuardHistory.step]
      cases hs : h.guard.sweep? time with
      | none => exact hk.bounded k
      | some w => exact ValueGuard.size_seen_sweep_le (hk.bounded k) hs
    · simp only [GuardHistory.step, refusal, List.append_nil]
      cases hs : h.guard.sweep? time with
      | none => exact hk.tallies
      | some w => exact hk.tallies.sweep hs

theorem kept_run (hwindows : g.windows = ∅) (hrefusals : g.refusals = 0) (l : List GuardStep) :
    (run g l).Kept (refusals g l) := by
  have hempty (name : String) : g.windowOf name = {} := by simp [ValueGuard.windowOf, hwindows]
  have hseen (name : String) : g.seen name = ∅ := congrArg ValueWindow.lastSeen (hempty name)
  refine transcript_induction l ⟨fun name ↦ ?_, ⟨hrefusals, fun name ↦ ?_, ?_⟩, ?_⟩
    (fun h s _ refused hk ↦ hk.step s)
  · rw [hseen]
    exact Nat.zero_le _
  · exact congrArg ValueWindow.refusals (hempty name)
  · rw [hwindows, hrefusals, Dict.total_empty]
  · intro name u t ht
    simp [hseen] at ht

/-- At every moment of a run, however the clock is set and whatever times are swept, no attribute
has more live values than its limit. The refusals shown add up to the guard's own count and to the
questions that were answered so, for each attribute as for all of them, and every attribute that had
one is shown, each once and in order of name. A sweep that reaches a time of the calendar reports by
how much the live values went down; it loses no refusal, and of the values that the guard remembers
exactly those go that were last admitted before the window. A question goes unanswered only where
its window reaches back beyond the calendar. -/
theorem counts_of_run (hwindows : g.windows = ∅) (hrefusals : g.refusals = 0) (l : List GuardStep) :
    let h := run g l
    let shown := h.guard.entries
    let refused := refusals g l
    (∀ name, h.guard.liveValues name ≤ g.limitFor name) ∧
      (shown.map GuardEntry.refusals).sum = h.guard.refusals ∧
      h.guard.refusals = refused.length ∧
      (∀ x ∈ shown, x.liveValues = h.guard.liveValues x.name ∧ x.limit = g.limitFor x.name ∧
        x.refusals = refused.count x.name) ∧
      (∀ name ∈ refused, name ∈ shown.map GuardEntry.name) ∧
      shown.Pairwise (fun x y ↦ x.name < y.name) ∧
      (∀ now name value, (now.sub? g.window).isSome →
        (h.guard.allow now name value).admitted.isSome) ∧
      ∀ time opened, time.sub? g.window = some opened → ∃ s, h.guard.sweep? time = some s ∧
        s.removed + (s.guard.entries.map GuardEntry.liveValues).sum =
          (shown.map GuardEntry.liveValues).sum ∧
        (∀ name, s.guard.refusalsOf name = h.guard.refusalsOf name) ∧
        ∀ name u, (h.guard.seen name).contains u →
          ((s.guard.seen name).contains u ↔
            ∃ t, h.lastAdmitted name u = some t ∧ opened ≤ t) := by
  intro h shown refused
  have hk : h.Kept refused := kept_run hwindows hrefusals l
  obtain ⟨hwindow, hlimit⟩ : h.guard.SameRules g := sameRules_run g l
  refine ⟨fun name ↦ ?_, ?_, hk.tallies.all, fun x hx ↦ ?_, fun name hname ↦ ?_,
    h.guard.pairwise_name_entries, fun now name value hnow ↦ ?_, fun time opened ho ↦ ?_⟩
  · rw [← hlimit]
    exact hk.bounded name
  · rw [ValueGuard.sum_refusals_entries, hk.tallies.shown]
  · obtain ⟨hlive, hlim, hcount⟩ := ValueGuard.of_mem_entries hx
    rw [hlimit] at hlim
    exact ⟨hlive, hlim, hcount.trans (hk.tallies.each x.name)⟩
  · apply ValueGuard.mem_names_entries
    rw [hk.tallies.each]
    exact List.count_pos_iff.2 hname
  · rw [← hwindow] at hnow
    by_contra hno
    rw [ValueGuard.sub?_eq_none_of_unanswered (Option.not_isSome_iff_eq_none.1 hno)] at hnow
    exact absurd hnow (by simp)
  · rw [← hwindow] at ho
    obtain ⟨s, hs⟩ : ∃ s, h.guard.sweep? time = some s := by simp [ValueGuard.sweep?, ho]
    refine ⟨s, hs, ?_, ValueGuard.refusalsOf_sweep hs, fun name u hu ↦ ?_⟩
    · rw [ValueGuard.sum_liveValues_entries, ValueGuard.sum_liveValues_entries,
        ValueGuard.removed_add_liveCount hs]
    · obtain ⟨t, ht⟩ := Option.isSome_iff_exists.1 hu
      rw [(ValueGuard.sweep?_spec hs ho).2, hk.recorded name u t ht]
      simp [Dict.contains, Dict.get?_filter, ht, Option.filter]

/-- The clock is set back by fifty seconds, an attribute that takes no value is asked about, and a
sweep then finds the one live value out of date. -/
theorem counts_of_run_set_back :
    let g : ValueGuard :=
      { defaultLimit := 1, window := 1000000000, limits := (∅ : Dict Nat).insert "closed" 0 }
    let l : List GuardStep := [⟨⟨60, 0⟩, .allow "user" "u"⟩, ⟨⟨60, 0⟩, .allow "user" "v"⟩,
      ⟨⟨10, 0⟩, .allow "closed" "x"⟩, ⟨⟨10, 0⟩, .sweep ⟨9, 0⟩⟩, ⟨⟨10, 0⟩, .allow "user" "u"⟩]
    g.windows = ∅ ∧ g.refusals = 0 ∧ refusals g l = ["user", "closed"] ∧
      (run g l).guard.refusals = 2 ∧
      ((run g l).guard.entries.map GuardEntry.refusals).sum = 2 ∧
      ∃ s, (run g l).guard.sweep? ⟨12, 0⟩ = some s ∧
        s.removed + (s.guard.entries.map GuardEntry.liveValues).sum = 1 ∧
        ¬ (s.guard.seen "user").contains "u" ∧ s.guard.refusalsOf "user" = 1 := by
  intro g l
  have hrefused : refusals g l = ["user", "closed"] := by decide +kernel
  obtain ⟨-, hsum, hall, -, -, -, -, hsweep⟩ := counts_of_run (g := g) rfl rfl l
  rw [hrefused] at hall
  obtain ⟨s, hs, hremoved, hlost, hseen⟩ := hsweep ⟨12, 0⟩ ⟨11, 0⟩ (by decide +kernel)
  refine ⟨rfl, rfl, hrefused, hall, hsum.trans hall, s, hs, ?_, ?_, ?_⟩
  · rw [hremoved]
    decide +kernel
  · have hlast : (run g l).lastAdmitted "user" "u" = some ⟨10, 0⟩ := by decide +kernel
    rw [hseen "user" "u" (by decide +kernel), hlast]
    rintro ⟨t, ht, hle⟩
    cases ht
    exact absurd hle (by decide +kernel)
  · rw [hlost]
    decide +kernel

end GuardHistory

end FlowCorrelation
