import FlowCorrelation.Proofs.Calendar.Backdating
import FlowCorrelation.Proofs.KeySet
import FlowCorrelation.Proofs.ValueGuard.Run

namespace FlowCorrelation.ValueGuard

variable {g : ValueGuard} {now since opened : Instant} {name value k u : String}

def Remembers (g : ValueGuard) (since : Instant) (name value : String) : Prop :=
  ∃ t, (g.seen name).get? value = some t ∧ since ≤ t

/-- Whether the guard admits no value at this time that it does not know: the attribute takes none
at all, or there is no room and all that was seen lies within the window. -/
def Closed (g : ValueGuard) (now : Instant) (name : String) : Prop :=
  g.limitFor name = 0 ∨ ∃ opened, now.sub? g.window = some opened ∧
    g.limitFor name ≤ (g.seen name).size ∧
    ∀ u t, (g.seen name).get? u = some t → opened ≤ t

theorem Remembers.contains (h : g.Remembers since name value) : (g.seen name).contains value := by
  obtain ⟨t, ht, -⟩ := h
  simp [Dict.contains, ht]

theorem allow_of_zero (now : Instant) (value : String) (h : g.limitFor name = 0) :
    g.allow now name value = ⟨g.refuse name (g.windowOf name), some false, 0⟩ := by
  simp [allow, h]

theorem allow_of_unanswered (hpos : 0 < g.limitFor name) (hnew : ¬ (g.seen name).contains value)
    (hfull : g.limitFor name ≤ (g.seen name).size) (hc : now.sub? g.window = none) :
    g.allow now name value = ⟨g.withWindow name (g.windowOf name), none, 0⟩ := by
  have hfull' : ¬ (g.windowOf name).size < g.limitFor name := Nat.not_lt.2 hfull
  simp only [allow, Nat.ne_of_gt hpos, if_false, hfull', hc]
  exact if_neg hnew

/-- Without the opening of the window the guard refuses what an attribute takes no value of, admits
what it knows or has room for, and has no answer to the rest. -/
theorem allow_cases_of_sub?_eq_none (g : ValueGuard) (name value : String)
    (hc : now.sub? g.window = none) :
    (g.limitFor name = 0 ∧ (g.allow now name value).admitted = some false ∧
        (g.allow now name value).guard.seen = g.seen) ∨
      (0 < g.limitFor name ∧
        ((g.seen name).contains value ∨ (g.seen name).size < g.limitFor name) ∧
        (g.allow now name value).admitted = some true ∧
        (g.allow now name value).guard.seen =
          Function.update g.seen name ((g.seen name).insert value now)) ∨
      (0 < g.limitFor name ∧ ¬ (g.seen name).contains value ∧
        g.limitFor name ≤ (g.seen name).size ∧ (g.allow now name value).admitted = none ∧
        (g.allow now name value).guard.seen = g.seen) := by
  have hsame : Function.update g.seen name (g.seen name) = g.seen := Function.update_eq_self _ _
  by_cases hzero : g.limitFor name = 0
  · rw [allow_of_zero now value hzero]
    exact Or.inl ⟨hzero, rfl, by rw [seen_refuse]; exact hsame⟩
  have hpos : 0 < g.limitFor name := Nat.pos_of_ne_zero hzero
  by_cases hknown : (g.seen name).contains value
  · rw [allow_of_known now hpos hknown]
    exact Or.inr (Or.inl ⟨hpos, Or.inl hknown, rfl, seen_withWindow _ _ _⟩)
  by_cases hroom : (g.seen name).size < g.limitFor name
  · rw [allow_of_room now hknown hroom]
    exact Or.inr (Or.inl ⟨hpos, Or.inr hroom, rfl, seen_withWindow _ _ _⟩)
  · have hfull : g.limitFor name ≤ (g.seen name).size := Nat.not_lt.1 hroom
    rw [allow_of_unanswered hpos hknown hfull hc]
    exact Or.inr (Or.inr ⟨hpos, hknown, hfull, rfl, (seen_withWindow _ _ _).trans hsame⟩)

theorem sub?_eq_none_of_unanswered (h : (g.allow now name value).admitted = none) :
    now.sub? g.window = none := by
  cases hc : now.sub? g.window with
  | none => rfl
  | some opened =>
    rcases g.allow_cases name value hc with
      ⟨-, ha, -⟩ | ⟨-, -, ha, -⟩ | ⟨-, -, ha, -⟩ | ⟨-, -, -, ha, -⟩ <;>
      exact absurd (h.symm.trans ha) (by simp)

/-- Without an answer nothing changes; with one, values from before the window may be forgotten and
the value may then be written down, if it is known or there is room. -/
theorem seen_allow (g : ValueGuard) (now : Instant) (name value : String) :
    ∃ kept, (kept = g.seen name ∨ ∃ opened, now.sub? g.window = some opened ∧
        kept = (g.seen name).filter (fun _ t ↦ opened ≤ t)) ∧
      ((g.allow now name value).admitted ≠ some true ∧
          (g.allow now name value).guard.seen = Function.update g.seen name kept ∨
        (g.allow now name value).admitted = some true ∧ 0 < g.limitFor name ∧
          (kept.contains value ∨ kept.size < g.limitFor name) ∧
          (g.allow now name value).guard.seen =
            Function.update g.seen name (kept.insert value now)) := by
  have hsame : Function.update g.seen name (g.seen name) = g.seen := Function.update_eq_self _ _
  cases hc : now.sub? g.window with
  | some cutoff =>
    rcases g.allow_cases name value hc with
      ⟨-, ha, hseen⟩ | ⟨hpos, hroom, ha, hseen⟩ | ⟨hnew, hfits, ha, hseen⟩ | ⟨-, -, -, ha, hseen⟩
    · exact ⟨_, Or.inl rfl, Or.inl ⟨by simp [ha], hseen.trans hsame.symm⟩⟩
    · exact ⟨_, Or.inl rfl, Or.inr ⟨ha, hpos, hroom, hseen⟩⟩
    · exact ⟨_, Or.inr ⟨cutoff, rfl, rfl⟩,
        Or.inr ⟨ha, Nat.zero_lt_of_lt hfits, Or.inr hfits, hseen⟩⟩
    · exact ⟨_, Or.inr ⟨cutoff, rfl, rfl⟩, Or.inl ⟨by simp [ha], hseen⟩⟩
  | none =>
    refine ⟨_, Or.inl rfl, ?_⟩
    rcases g.allow_cases_of_sub?_eq_none name value hc with
      ⟨-, ha, hseen⟩ | ⟨hpos, hroom, ha, hseen⟩ | ⟨-, -, -, ha, hseen⟩
    · exact Or.inl ⟨by simp [ha], hseen.trans hsame.symm⟩
    · exact Or.inr ⟨ha, hpos, hroom, hseen⟩
    · exact Or.inl ⟨by simp [ha], hseen.trans hsame.symm⟩

theorem seen_allow_of_ne (now : Instant) (value : String) (h : name ≠ k) :
    (g.allow now name value).guard.seen k = g.seen k := by
  obtain ⟨kept, -, ⟨-, hseen⟩ | ⟨-, -, -, hseen⟩⟩ := g.seen_allow now name value <;>
    rw [hseen, Function.update_of_ne (Ne.symm h)]

theorem limitFor_allow (g : ValueGuard) (now : Instant) (name value k : String) :
    (g.allow now name value).guard.limitFor k = g.limitFor k :=
  congrFun (g.sameRules_allow now name value).2 k

theorem window_allow (g : ValueGuard) (now : Instant) (name value : String) :
    (g.allow now name value).guard.window = g.window :=
  (g.sameRules_allow now name value).1

theorem Remembers.filter {kept : Dict Instant} (h : g.Remembers since name u)
    (hkept : kept = g.seen name ∨ ∃ opened, now.sub? g.window = some opened ∧
      kept = (g.seen name).filter (fun _ t ↦ opened ≤ t))
    (hopened : Instant.OpensBy g.window now since) :
    ∃ t, kept.get? u = some t ∧ since ≤ t := by
  obtain ⟨t, ht, hle⟩ := h
  rcases hkept with rfl | ⟨opened, ho, rfl⟩
  · exact ⟨t, ht, hle⟩
  · have hin : opened ≤ t := Instant.le_trans (hopened opened ho) hle
    exact ⟨t, by simp [Dict.get?_filter, ht, Option.filter, hin], hle⟩

theorem Remembers.allow (h : g.Remembers since k u)
    (hopened : Instant.OpensBy g.window now since) (hnow : since ≤ now)
    (name value : String) : (g.allow now name value).guard.Remembers since k u := by
  by_cases hk : name = k
  · subst hk
    obtain ⟨kept, hkept, ⟨-, hseen⟩ | ⟨-, -, -, hseen⟩⟩ := g.seen_allow now name value
    · obtain ⟨t, ht, hle⟩ := h.filter hkept hopened
      exact ⟨t, by rw [hseen, Function.update_self, ht], hle⟩
    · obtain ⟨t, ht, hle⟩ := h.filter hkept hopened
      by_cases hu : value = u
      · exact ⟨now, by rw [hseen, Function.update_self, hu, Dict.get?_insert_self], hnow⟩
      · exact ⟨t, by rw [hseen, Function.update_self, Dict.get?_insert_of_ne _ hu, ht], hle⟩
  · simpa only [Remembers, seen_allow_of_ne now value hk] using h

theorem remembers_of_admitted (h : (g.allow now name value).admitted = some true) :
    0 < g.limitFor name ∧ (g.allow now name value).guard.Remembers now name value := by
  obtain ⟨kept, -, ⟨ha, -⟩ | ⟨-, hpos, -, hseen⟩⟩ := g.seen_allow now name value
  · exact absurd h ha
  · exact ⟨hpos, now, by rw [hseen, Function.update_self, Dict.get?_insert_self],
      Instant.le_refl now⟩

theorem Remembers.admitted (h : g.Remembers since name value) (hpos : 0 < g.limitFor name)
    (now : Instant) : (g.allow now name value).admitted = some true := by
  rw [allow_of_known now hpos h.contains]

/-- A guard that holds no more values than it may never comes to hold more. -/
theorem size_seen_allow_le (h : (g.seen k).size ≤ g.limitFor k) (now : Instant)
    (name value : String) : ((g.allow now name value).guard.seen k).size ≤ g.limitFor k := by
  by_cases hk : name = k
  · subst hk
    obtain ⟨kept, hkept, hallow⟩ := g.seen_allow now name value
    have hsize : kept.size ≤ g.limitFor name := by
      rcases hkept with rfl | ⟨opened, -, rfl⟩
      · exact h
      · exact (Dict.size_filter_le _ _).trans h
    rcases hallow with ⟨-, hseen⟩ | ⟨-, -, hknown | hroom, hseen⟩
    · rwa [hseen, Function.update_self]
    · rwa [hseen, Function.update_self, Dict.size_insert_of_contains hknown]
    · rw [hseen, Function.update_self]
      exact (Dict.size_insert_le _ _ _).trans hroom
  · rwa [seen_allow_of_ne now value hk]

theorem seen_sweep {s : Sweep} (hs : g.sweep? now = some s) :
    SameRules s.guard g ∧ ∃ opened, now.sub? g.window = some opened ∧
      ∀ name, s.guard.seen name = (g.seen name).filter (fun _ t ↦ opened ≤ t) := by
  obtain ⟨opened, ho, -⟩ := Option.map_eq_some_iff.1 hs
  obtain ⟨hrules, hseen⟩ := sweep?_spec hs ho
  exact ⟨hrules, opened, ho, hseen⟩

theorem Remembers.sweep {s : Sweep} (h : g.Remembers since k u)
    (hopened : Instant.OpensBy g.window now since) (hs : g.sweep? now = some s) :
    s.guard.Remembers since k u := by
  obtain ⟨-, opened, ho, hseen⟩ := seen_sweep hs
  obtain ⟨t, ht, hle⟩ := h.filter (Or.inr ⟨opened, ho, rfl⟩) hopened
  exact ⟨t, by rw [hseen, ht], hle⟩

theorem size_seen_sweep_le {s : Sweep} (h : (g.seen k).size ≤ g.limitFor k)
    (hs : g.sweep? now = some s) : (s.guard.seen k).size ≤ s.guard.limitFor k := by
  obtain ⟨hrules, opened, -, hseen⟩ := seen_sweep hs
  rw [hrules.2, hseen]
  exact (Dict.size_filter_le _ _).trans h

theorem closed_of_refused (h : (g.allow now name value).admitted = some false) :
    (g.allow now name value).guard.Closed now name := by
  simp only [Closed, limitFor_allow, window_allow]
  by_cases hzero : g.limitFor name = 0
  · exact Or.inl hzero
  cases hc : now.sub? g.window with
  | none =>
    rcases g.allow_cases_of_sub?_eq_none name value hc with
      ⟨hzero', -, -⟩ | ⟨-, -, ha, -⟩ | ⟨-, -, -, ha, -⟩
    · exact absurd hzero' hzero
    · simp [ha] at h
    · simp [ha] at h
  | some cutoff =>
    rcases g.allow_cases name value hc with
      ⟨hzero', -, -⟩ | ⟨-, -, ha, -⟩ | ⟨-, -, ha, -⟩ | ⟨-, -, hfull, -, hseen⟩
    · exact absurd hzero' hzero
    · simp [ha] at h
    · simp [ha] at h
    · refine Or.inr ⟨cutoff, rfl, ?_, fun u t hu ↦ ?_⟩
      · rwa [hseen, Function.update_self]
      · rw [hseen, Function.update_self, Dict.get?_filter] at hu
        simpa using (Option.filter_eq_some_iff.1 hu).2

theorem Closed.allow_self (h : g.Closed now name) (value : String) :
    ((g.allow now name value).admitted = some false ∧
        ¬ (0 < g.limitFor name ∧ (g.seen name).contains value) ∧
        (g.allow now name value).guard.seen = g.seen) ∨
      ((g.allow now name value).admitted = some true ∧
        (0 < g.limitFor name ∧ (g.seen name).contains value) ∧
        (g.allow now name value).guard.seen =
          Function.update g.seen name ((g.seen name).insert value now)) := by
  by_cases hzero : g.limitFor name = 0
  · rw [allow_of_zero now value hzero]
    refine Or.inl ⟨rfl, fun hpos ↦ Nat.ne_of_gt hpos.1 hzero, ?_⟩
    rw [seen_refuse]
    exact Function.update_eq_self _ _
  have hpos : 0 < g.limitFor name := Nat.pos_of_ne_zero hzero
  by_cases hknown : (g.seen name).contains value
  · rw [allow_of_known now hpos hknown]
    exact Or.inr ⟨rfl, ⟨hpos, hknown⟩, seen_withWindow _ _ _⟩
  obtain ⟨opened, ho, hfull, hlive⟩ := h.resolve_left hzero
  have hall : (g.seen name).filter (fun _ t ↦ opened ≤ t) = g.seen name :=
    Dict.filter_eq_self (fun u t hu ↦ by simpa using hlive u t hu)
  rcases g.allow_cases name value ho with
    ⟨hzero', -, -⟩ | ⟨-, hroom, -, -⟩ | ⟨-, hfits, -, -⟩ | ⟨-, -, -, ha, hseen⟩
  · exact absurd hzero' hzero
  · rcases hroom with hroom | hroom
    · exact absurd hroom hknown
    · exact absurd hroom (Nat.not_lt.2 hfull)
  · rw [hall] at hfits
    exact absurd hfits (Nat.not_lt.2 hfull)
  · refine Or.inl ⟨ha, fun hboth ↦ hknown hboth.2, ?_⟩
    rw [hseen, hall]
    exact Function.update_eq_self _ _

theorem Closed.admitted (h : g.Closed now name) (value : String) :
    (g.allow now name value).admitted =
      some (decide (0 < g.limitFor name ∧ (g.seen name).contains value)) := by
  rcases h.allow_self value with ⟨ha, hno, -⟩ | ⟨ha, hyes, -⟩
  · rw [ha, decide_eq_false hno]
  · rw [ha, decide_eq_true hyes]

/-- While the clock stands still a closed attribute stays closed, and the guard knows the same
values for it. -/
theorem Closed.allow (h : g.Closed now k)
    (hopened : Instant.OpensBy g.window now now) (name value : String) :
    (g.allow now name value).guard.Closed now k ∧
      ∀ u, ((g.allow now name value).guard.seen k).contains u = (g.seen k).contains u := by
  simp only [Closed, limitFor_allow, window_allow]
  by_cases hk : name = k
  · subst hk
    rcases h.allow_self value with ⟨-, -, hseen⟩ | ⟨-, ⟨hpos, hknown⟩, hseen⟩
    · rw [hseen]
      exact ⟨h, fun _ ↦ rfl⟩
    · rw [hseen, Function.update_self]
      obtain ⟨opened, ho, hfull, hlive⟩ := h.resolve_left (Nat.ne_of_gt hpos)
      refine ⟨Or.inr ⟨opened, ho, ?_, fun u t hu ↦ ?_⟩, fun u ↦ ?_⟩
      · rwa [Dict.size_insert_of_contains hknown]
      · rw [Dict.get?_insert] at hu
        split at hu
        · exact Option.some.inj hu ▸ hopened opened ho
        · exact hlive u t hu
      · rw [Dict.contains, Dict.get?_insert]
        split
        · rename_i hu
          rw [← hu, hknown, Option.isSome_some]
        · rfl
  · rw [seen_allow_of_ne now value hk]
    exact ⟨h, fun _ ↦ rfl⟩

def Knows (g : ValueGuard) (name value : String) : Prop :=
  0 < g.limitFor name ∧ (g.seen name).contains value

instance (g : ValueGuard) (name value : String) : Decidable (g.Knows name value) :=
  inferInstanceAs (Decidable (_ ∧ _))

def Settled (g : ValueGuard) (now : Instant) (name value : String) : Prop :=
  (0 < g.limitFor name ∧ g.Remembers now name value) ∨ g.Closed now name

theorem Settled.admitted (h : g.Settled now name value) :
    (g.allow now name value).admitted = some (decide (g.Knows name value)) := by
  rcases h with ⟨hpos, hseen⟩ | hclosed
  · rw [hseen.admitted hpos now, decide_eq_true ⟨hpos, hseen.contains⟩]
  · exact hclosed.admitted value

theorem Settled.allow (h : g.Settled now k u)
    (hopened : Instant.OpensBy g.window now now) (name value : String) :
    (g.allow now name value).guard.Settled now k u ∧
      ((g.allow now name value).guard.Knows k u ↔ g.Knows k u) := by
  have hlimit := g.limitFor_allow now name value k
  rcases h with ⟨hpos, hseen⟩ | hclosed
  · have hseen' := hseen.allow hopened (Instant.le_refl now) name value
    exact ⟨Or.inl ⟨hlimit ▸ hpos, hseen'⟩,
      iff_of_true ⟨hlimit ▸ hpos, hseen'.contains⟩ ⟨hpos, hseen.contains⟩⟩
  · obtain ⟨hclosed', hknown⟩ := hclosed.allow hopened name value
    refine ⟨Or.inr hclosed', ?_⟩
    rw [Knows, Knows, hlimit, hknown]

end FlowCorrelation.ValueGuard
