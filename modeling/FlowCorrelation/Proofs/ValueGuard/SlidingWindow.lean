import FlowCorrelation.Proofs.Calendar.Backdating
import FlowCorrelation.Proofs.KeySet
import FlowCorrelation.Proofs.ValueGuard.Run

namespace FlowCorrelation

/-- The guard remembers nothing but last admissions, has forgotten only values that were last
admitted before `cutoff`, and holds no more values than it may. -/
structure GuardHistory.Tracks (h : GuardHistory) (cutoff : Instant) : Prop where
  recorded : ∀ name u t, (h.guard.seen name).get? u = some t → h.lastAdmitted name u = some t
  forgotten : ∀ name u t, h.lastAdmitted name u = some t → (h.guard.seen name).get? u = none →
    ¬ cutoff ≤ t
  bounded : ∀ name, (h.guard.seen name).size ≤ h.guard.limitFor name

/-- Calls under a clock that does not go back, sweeps at times that are not ahead of it, and windows
that open within the calendar, in the order in which they end. -/
structure Timely (window : Span) (l : List GuardStep) : Prop where
  ordered : l.Pairwise (fun a b ↦ a.clock ≤ b.clock)
  notAhead : ∀ s ∈ l, s.moment ≤ s.clock
  representable : ∀ s ∈ l, (s.moment.sub? window).isSome
  steady : ∀ a ∈ l, ∀ b ∈ l, a.moment ≤ b.moment → ∀ o o', a.moment.sub? window = some o →
    b.moment.sub? window = some o' → o ≤ o'

namespace GuardHistory

variable {h : GuardHistory} {g : ValueGuard} {now cutoff opened : Instant} {name value : String}

theorem Tracks.liveOthers_subset (ht : h.Tracks cutoff) (name value : String) :
    h.liveOthers name value cutoff ⊆ (h.guard.seen name).keySet.erase value := by
  intro u hu
  obtain ⟨hne, t, hlast, hct⟩ := mem_liveOthers.1 hu
  have hknown : (h.guard.seen name).get? u ≠ none := fun hu ↦ ht.forgotten name u t hlast hu hct
  exact Finset.mem_erase.2 ⟨hne, Dict.mem_keySet.2 (Option.isSome_iff_ne_none.2 hknown)⟩

theorem Tracks.liveOthers_eq (ht : h.Tracks cutoff) (hnew : ¬ (h.guard.seen name).contains value) :
    h.liveOthers name value cutoff =
      ((h.guard.seen name).filter (fun _ t ↦ cutoff ≤ t)).keySet := by
  ext u
  rw [Dict.mem_keySet, Dict.get?_filter, mem_liveOthers]
  constructor
  · rintro ⟨_, t, hlast, hct⟩
    cases hu : (h.guard.seen name).get? u with
    | none => exact absurd hct (ht.forgotten name u t hlast hu)
    | some t' =>
      have htt' : t' = t := Option.some.inj ((ht.recorded name u t' hu).symm.trans hlast)
      simp [Option.filter, htt', hct]
  · intro hkept
    cases hu : (h.guard.seen name).get? u with
    | none => simp [hu] at hkept
    | some t =>
      have hct : cutoff ≤ t := by simpa [hu, Option.filter] using hkept
      have hne : u ≠ value := fun heq ↦ hnew (by simp [Dict.contains, ← heq, hu])
      exact ⟨hne, t, ht.recorded name u t hu, hct⟩

/-- A guard that tracks its history answers as the ideal window does. -/
theorem Tracks.admitted_allow (ht : h.Tracks cutoff)
    (hc : now.sub? h.guard.window = some cutoff) (name value : String) :
    (h.guard.allow now name value).admitted =
      some (decide ((h.liveOthers name value cutoff).card < h.guard.limitFor name)) := by
  rcases h.guard.allow_cases name value hc with
    ⟨hzero, ha, -⟩ | ⟨hpos, hroom, ha, -⟩ | ⟨hnew, hfits, ha, -⟩ | ⟨-, hnew, hfull, ha, -⟩
  · simp [ha, hzero]
  · have hsub := Finset.card_le_card (ht.liveOthers_subset name value)
    have hlt : (h.liveOthers name value cutoff).card < h.guard.limitFor name := by
      rcases hroom with hknown | hroom
      · have hmax := ht.bounded name
        rw [Finset.card_erase_of_mem (Dict.mem_keySet.2 hknown), Dict.card_keySet] at hsub
        omega
      · have herase := Finset.card_erase_le (s := (h.guard.seen name).keySet) (a := value)
        rw [Dict.card_keySet] at herase
        omega
    simp [ha, hlt]
  · simp [ha, ht.liveOthers_eq hnew, hfits]
  · simp [ha, ht.liveOthers_eq hnew, Nat.not_lt.2 hfull]

theorem Tracks.forget (ht : h.Tracks cutoff) {g' : ValueGuard} (hg : g'.SameRules h.guard)
    (hle : opened ≤ cutoff)
    (hseen : ∀ name, g'.seen name = h.guard.seen name ∨
      g'.seen name = (h.guard.seen name).filter (fun _ t ↦ opened ≤ t)) :
    Tracks ⟨g', h.admitted⟩ cutoff where
  recorded name u t hu := by
    refine ht.recorded name u t ?_
    rcases hseen name with heq | heq
    · exact heq ▸ hu
    · rw [heq, Dict.get?_filter] at hu
      exact (Option.filter_eq_some_iff.1 hu).1
  forgotten name u t hlast hu := by
    rcases hseen name with heq | heq
    · exact ht.forgotten name u t hlast (heq ▸ hu)
    · intro hct
      rw [heq, Dict.get?_filter] at hu
      cases hu' : (h.guard.seen name).get? u with
      | none => exact ht.forgotten name u t hlast hu' hct
      | some t' =>
        have htt' : t' = t := Option.some.inj ((ht.recorded name u t' hu').symm.trans hlast)
        simp [hu', Option.filter, htt', Instant.le_trans hle hct] at hu
  bounded name := by
    have hmax := ht.bounded name
    rw [← hg.2] at hmax
    rcases hseen name with heq | heq
    · exact heq ▸ hmax
    · rw [heq]
      exact (Dict.size_filter_le _ _).trans hmax

theorem Tracks.forget_at (ht : h.Tracks cutoff) {g' : ValueGuard} (hg : g'.SameRules h.guard)
    (hle : opened ≤ cutoff)
    (hseen : g'.seen = Function.update h.guard.seen name
      ((h.guard.seen name).filter (fun _ t ↦ opened ≤ t))) :
    Tracks ⟨g', h.admitted⟩ cutoff := by
  refine ht.forget hg hle (fun k ↦ ?_)
  by_cases hk : name = k
  · subst hk; exact Or.inr (by simp [hseen])
  · exact Or.inl (by simp [hseen, Function.update_of_ne (Ne.symm hk)])

theorem lastAdmitted_cons (g : ValueGuard) (a : AdmittedValue) (l : List AdmittedValue)
    (name value : String) :
    lastAdmitted ⟨g, a :: l⟩ name value =
      if a.name = name ∧ a.value = value then some a.time else lastAdmitted ⟨g, l⟩ name value := by
  by_cases h : a.name = name ∧ a.value = value <;> simp [lastAdmitted, h]

theorem Tracks.admit (ht : h.Tracks cutoff) {g' : ValueGuard} (hg : g'.SameRules h.guard)
    (hseen : g'.seen = Function.update h.guard.seen name ((h.guard.seen name).insert value now))
    (hsize : ((h.guard.seen name).insert value now).size ≤ h.guard.limitFor name) :
    Tracks ⟨g', ⟨now, name, value⟩ :: h.admitted⟩ cutoff := by
  have hget (k u : String) : (g'.seen k).get? u =
      if name = k ∧ value = u then some now else (h.guard.seen k).get? u := by
    by_cases hk : name = k
    · subst hk; simp [hseen, Dict.get?_insert]
    · simp [hseen, hk, Function.update_of_ne (Ne.symm hk)]
  have hlast (k u : String) : lastAdmitted ⟨g', ⟨now, name, value⟩ :: h.admitted⟩ k u =
      if name = k ∧ value = u then some now else h.lastAdmitted k u :=
    lastAdmitted_cons g' ⟨now, name, value⟩ h.admitted k u
  refine ⟨fun k u t hu ↦ ?_, fun k u t hu hnone ↦ ?_, fun k ↦ ?_⟩
  · rw [hget] at hu
    rw [hlast]
    split at hu
    · exact (if_pos ‹_›).trans hu
    · exact (if_neg ‹_›).trans (ht.recorded k u t hu)
  · rw [hlast] at hu
    rw [hget] at hnone
    split at hnone
    · cases hnone
    · exact ht.forgotten k u t ((if_neg ‹_›).symm.trans hu) hnone
  · rw [hg.2]
    by_cases hk : name = k
    · subst hk; simpa [hseen] using hsize
    · simpa [hseen, Function.update_of_ne (Ne.symm hk)] using ht.bounded k

theorem Tracks.step (ht : h.Tracks cutoff) {s : GuardStep}
    (hs : s.moment.sub? h.guard.window = some opened) (hle : opened ≤ cutoff) :
    (h.step s).Tracks cutoff := by
  obtain ⟨clock, call⟩ := s
  cases call with
  | sweep time =>
    obtain ⟨w, hw⟩ : ∃ w, h.guard.sweep? time = some w := by
      simp only [ValueGuard.sweep?, Option.map_eq_some_iff]
      exact ⟨_, opened, hs, rfl⟩
    obtain ⟨hg, hseen⟩ := ValueGuard.sweep?_spec hw hs
    simpa [GuardHistory.step, hw] using ht.forget hg hle (fun name ↦ Or.inr (hseen name))
  | allow name value =>
    have hc : clock.sub? h.guard.window = some opened := hs
    have hg := ValueGuard.sameRules_allow h.guard clock name value
    simp only [GuardHistory.step]
    rcases h.guard.allow_cases name value hc with
      ⟨-, ha, hseen⟩ | ⟨-, hroom, ha, hseen⟩ | ⟨-, hfits, ha, hseen⟩ | ⟨-, -, -, ha, hseen⟩
    · simpa [ha] using ht.forget hg hle (fun k ↦ Or.inl (congrFun hseen k))
    · simp only [ha, if_true]
      refine ht.admit hg hseen ?_
      rcases hroom with hknown | hroom
      · exact (Dict.size_insert_of_contains hknown clock).le.trans (ht.bounded name)
      · exact (Dict.size_insert_le _ _ _).trans hroom
    · -- First what is expired goes, as in a guard that holds the kept values only; then the new
      -- value comes.
      let kept := (h.guard.seen name).filter (fun _ t ↦ opened ≤ t)
      let emptied := h.guard.withWindow name { lastSeen := kept }
      have hemptied : emptied.seen = Function.update h.guard.seen name kept :=
        ValueGuard.seen_withWindow h.guard name { lastSeen := kept }
      have hkept : Tracks ⟨emptied, h.admitted⟩ cutoff := ht.forget_at ⟨rfl, rfl⟩ hle hemptied
      simp only [ha, if_true]
      refine hkept.admit hg ?_ ?_
      · simpa [hemptied, kept] using hseen
      · simp only [hemptied, Function.update_self]
        exact (Dict.size_insert_le kept value clock).trans hfits
    · simpa [ha] using ht.forget_at hg hle hseen

theorem tracks_run_nil (hg : g.windows = ∅) (cutoff : Instant) : (run g []).Tracks cutoff := by
  have hseen (name : String) : g.seen name = ∅ := by
    simp [ValueGuard.seen, ValueGuard.windowOf, hg]
  refine ⟨fun name u t hu ↦ ?_, fun name u t hlast ↦ ?_, fun name ↦ ?_⟩
  · simp [hseen] at hu
  · simp [lastAdmitted] at hlast
  · simp [hseen, Dict.size]

/-- A run tracks what it admitted, as long as no window in it opens after the one in view. -/
theorem tracks_run (hg : g.windows = ∅) {l : List GuardStep}
    (hl : ∀ s ∈ l, ∃ opened, s.moment.sub? g.window = some opened ∧ opened ≤ cutoff) :
    (run g l).Tracks cutoff := by
  induction l using List.reverseRecOn with
  | nil => exact tracks_run_nil hg cutoff
  | append_singleton l s ih =>
    obtain ⟨opened, hs, hle⟩ := hl s (by simp)
    rw [run_concat]
    refine (ih (fun s hs ↦ hl s (by simp [hs]))).step ?_ hle
    rwa [(sameRules_run g l).1]

theorem lastAdmitted_step_of_not_asks {s : GuardStep} (hs : s.asks name = false) (u : String) :
    (h.step s).lastAdmitted name u = h.lastAdmitted name u := by
  obtain ⟨clock, call⟩ := s
  cases call with
  | sweep time => rfl
  | allow k v =>
    have hk : k ≠ name := by simpa [GuardStep.asks] using hs
    simp only [GuardHistory.step]
    split
    · rw [lastAdmitted_cons, if_neg (fun heq ↦ hk heq.1)]
      rfl
    · rfl

theorem lastAdmitted_step_allow (h : GuardHistory) (clock : Instant) (name value u : String) :
    (h.step ⟨clock, .allow name value⟩).lastAdmitted name u =
      if (h.guard.allow clock name value).admitted = some true ∧ value = u then some clock
      else h.lastAdmitted name u := by
  simp only [GuardHistory.step]
  split
  · rename_i ha
    rw [lastAdmitted_cons]
    simp only [ha, true_and]
    rfl
  · rename_i ha
    rw [if_neg (fun heq ↦ ha heq.1)]
    rfl

theorem liveOthers_congr {h' : GuardHistory}
    (hlast : ∀ u, h.lastAdmitted name u = h'.lastAdmitted name u) (value : String)
    (cutoff : Instant) : h.liveOthers name value cutoff = h'.liveOthers name value cutoff := by
  ext u
  rw [mem_liveOthers, mem_liveOthers, hlast]

end GuardHistory

namespace Timely

variable {window : Span} {l l' : List GuardStep} {s : GuardStep}

theorem of_plain (ordered : l.Pairwise (fun a b ↦ a.clock ≤ b.clock))
    (notAhead : ∀ s ∈ l, s.moment ≤ s.clock)
    (representable : ∀ s ∈ l, (s.moment.sub? window).isSome)
    (plain : ∀ s ∈ l, s.moment.IsPlain) : Timely window l where
  ordered := ordered
  notAhead := notAhead
  representable := representable
  steady a ha b hb hle _ _ ho ho' := (plain a ha).sub?_le_sub? (plain b hb) hle ho ho'

theorem sublist (ht : Timely window l) (h : l'.Sublist l) : Timely window l' where
  ordered := ht.ordered.sublist h
  notAhead s hs := ht.notAhead s (h.subset hs)
  representable s hs := ht.representable s (h.subset hs)
  steady a ha b hb := ht.steady a (h.subset ha) b (h.subset hb)

theorem filter_concat (ht : Timely window (l ++ [s])) (p : GuardStep → Bool) :
    Timely window (l.filter p ++ [s]) :=
  ht.sublist (List.filter_sublist.append_right [s])

theorem exists_opened (ht : Timely window (l ++ [s])) (hs : s.moment = s.clock) :
    ∃ opened, s.moment.sub? window = some opened ∧
      ∀ s' ∈ l, ∃ opened', s'.moment.sub? window = some opened' ∧ opened' ≤ opened := by
  obtain ⟨opened, ho⟩ := Option.isSome_iff_exists.1 (ht.representable s (by simp))
  refine ⟨opened, ho, fun s' hs' ↦ ?_⟩
  have hmem : s' ∈ l ++ [s] := by simp [hs']
  obtain ⟨opened', ho'⟩ := Option.isSome_iff_exists.1 (ht.representable s' hmem)
  have hclock : s'.clock ≤ s.clock := (List.pairwise_append.1 ht.ordered).2.2 s' hs' s (by simp)
  have hle : s'.moment ≤ s.moment := hs ▸ Instant.le_trans (ht.notAhead s' hmem) hclock
  exact ⟨opened', ho', ht.steady s' hmem s (by simp) hle opened' opened ho' ho⟩

end Timely

namespace GuardHistory

variable {g : ValueGuard} {past : List GuardStep} {now : Instant} {name value : String}

theorem exists_admitted_allow (hg : g.windows = ∅)
    (ht : Timely g.window (past ++ [⟨now, .allow name value⟩])) :
    ∃ opened, now.sub? g.window = some opened ∧
      ((run g past).guard.allow now name value).admitted =
        some (decide (((run g past).liveOthers name value opened).card < g.limitFor name)) := by
  obtain ⟨opened, ho, hl⟩ := ht.exists_opened rfl
  obtain ⟨hwindow, hlimit⟩ := sameRules_run g past
  refine ⟨opened, ho, ?_⟩
  rw [(tracks_run hg hl).admitted_allow (hwindow ▸ ho), hlimit]

theorem lastAdmitted_run_filter (hg : g.windows = ∅) (ht : Timely g.window past) (name u : String) :
    (run g past).lastAdmitted name u =
      (run g (past.filter (GuardStep.asks name))).lastAdmitted name u := by
  induction past using List.reverseRecOn generalizing u with
  | nil => rfl
  | append_singleton l s ih =>
    have hih := ih (ht.sublist (List.sublist_append_left l [s]))
    rw [List.filter_append, run_concat]
    cases hs : s.asks name with
    | false =>
      rw [List.filter_cons_of_neg (by simp [hs]), List.filter_nil, List.append_nil,
        lastAdmitted_step_of_not_asks hs, hih]
    | true =>
      obtain ⟨clock, ⟨k, v⟩ | ⟨time⟩⟩ := s
      · obtain rfl : k = name := by simpa [GuardStep.asks] using hs
        obtain ⟨opened, ho, ha⟩ := exists_admitted_allow hg ht
        obtain ⟨opened', ho', ha'⟩ := exists_admitted_allow hg (ht.filter_concat _)
        obtain rfl : opened = opened' := Option.some.inj (ho.symm.trans ho')
        rw [List.filter_cons_of_pos (by simp [hs]), List.filter_nil, run_concat,
          lastAdmitted_step_allow, lastAdmitted_step_allow, ha, ha', liveOthers_congr hih, hih]
      · simp [GuardStep.asks] at hs

/-- At every question of a run the guard answers, and it admits the value exactly if the limit of
the attribute is not zero and fewer other values than the limit were last admitted since the window
opened. So it would answer the same had only this attribute been asked about, and had nothing been
swept. -/
theorem admitted_allow_iff_live (hg : g.windows = ∅)
    (ht : Timely g.window (past ++ [⟨now, .allow name value⟩])) :
    ∃ opened, now.sub? g.window = some opened ∧
      ((run g past).guard.allow now name value).admitted =
        some (decide (0 < g.limitFor name ∧
          ((run g past).liveOthers name value opened).card < g.limitFor name)) ∧
      ((run g past).guard.allow now name value).admitted =
        ((run g (past.filter (GuardStep.asks name))).guard.allow now name value).admitted := by
  obtain ⟨opened, ho, ha⟩ := exists_admitted_allow hg ht
  obtain ⟨opened', ho', ha'⟩ := exists_admitted_allow hg (ht.filter_concat _)
  obtain rfl : opened = opened' := Option.some.inj (ho.symm.trans ho')
  have hlast := lastAdmitted_run_filter hg
    (ht.sublist (List.sublist_append_left past _)) name
  have hpos : ((run g past).liveOthers name value opened).card < g.limitFor name ↔
      0 < g.limitFor name ∧ ((run g past).liveOthers name value opened).card < g.limitFor name :=
    ⟨fun hlt ↦ ⟨Nat.zero_lt_of_lt hlt, hlt⟩, And.right⟩
  refine ⟨opened, ho, ?_, ?_⟩
  · rw [ha, decide_eq_decide.2 hpos]
  · rw [ha, ha', liveOthers_congr hlast]

/-- A value seen exactly when the window opens is still live, through a sweep at that very time and
whatever another attribute is asked. -/
theorem admitted_allow_at_window_edge :
    let g : ValueGuard := { defaultLimit := 1, window := 1000000000 }
    let past : List GuardStep := [⟨⟨59, 300000000⟩, .allow "user" "u"⟩,
      ⟨⟨60, 0⟩, .allow "route" "r"⟩, ⟨⟨60, 300000000⟩, .sweep ⟨60, 300000000⟩⟩]
    g.windows = ∅ ∧ Timely g.window (past ++ [⟨⟨60, 300000000⟩, .allow "user" "v"⟩]) ∧
      ((run g past).guard.allow ⟨60, 300000000⟩ "user" "v").admitted = some false := by
  intro g past
  have ht : Timely g.window (past ++ [⟨⟨60, 300000000⟩, .allow "user" "v"⟩]) :=
    .of_plain (by decide) (by decide) (by decide) (by decide)
  refine ⟨rfl, ht, ?_⟩
  obtain ⟨opened, ho, ha, -⟩ := admitted_allow_iff_live rfl ht
  obtain rfl : opened = ⟨59, 300000000⟩ := Option.some.inj (ho.symm.trans (by decide))
  rw [ha]
  decide +kernel

/-- Where windows do not open in order the guard is no ideal window: a sweep half a second into a
leap second removes a value that is live half a second later, and another is admitted beyond the
limit. -/
theorem leap_second_sweep_admits_beyond_limit :
    let g : ValueGuard := { defaultLimit := 1, window := 1000000000 }
    let past : List GuardStep := [⟨⟨1767225659, 300000000⟩, .allow "a" "u"⟩,
      ⟨⟨1767225660, 0⟩, .sweep ⟨1767225659, 1500000000⟩⟩]
    let steps := past ++ [⟨⟨1767225660, 0⟩, .allow "a" "v"⟩]
    g.windows = ∅ ∧ 0 ≤ g.window ∧ steps.Pairwise (fun a b ↦ a.clock ≤ b.clock) ∧
      (∀ s ∈ steps, s.moment ≤ s.clock) ∧ (∀ s ∈ steps, (s.moment.sub? g.window).isSome) ∧
      (⟨1767225660, 0⟩ : Instant).sub? g.window = some ⟨1767225659, 0⟩ ∧
      ((run g past).guard.allow ⟨1767225660, 0⟩ "a" "v").admitted = some true ∧
      g.limitFor "a" = 1 ∧
      (run g past).liveOthers "a" "v" ⟨1767225659, 0⟩ = {"u"} := by
  intro g past steps
  exact ⟨rfl, by decide +kernel⟩

end GuardHistory

end FlowCorrelation
