import FlowCorrelation.ValueGuard
import Mathlib.Data.Finset.Card
import Mathlib.Logic.Function.Basic

namespace FlowCorrelation

namespace ValueGuard

variable {g : ValueGuard} {now cutoff : Instant} {name value : String}

/-- The values of an attribute that the guard remembers, with the time each was last seen. -/
def seen (g : ValueGuard) (name : String) : Dict Instant := (g.windowOf name).lastSeen

theorem windowOf_withWindow (g : ValueGuard) (name k : String) (w : ValueWindow) :
    (g.withWindow name w).windowOf k = if name = k then w else g.windowOf k := by
  by_cases h : name = k <;> simp [windowOf, withWindow, Dict.get?_insert, h]

theorem seen_withWindow (g : ValueGuard) (name : String) (w : ValueWindow) :
    (g.withWindow name w).seen = Function.update g.seen name w.lastSeen := by
  funext k
  by_cases h : name = k
  · subst h; simp [seen, windowOf_withWindow]
  · simp [seen, windowOf_withWindow, h, Function.update_of_ne (Ne.symm h)]

theorem seen_refuse (g : ValueGuard) (name : String) (w : ValueWindow) :
    (g.refuse name w).seen = Function.update g.seen name w.lastSeen :=
  seen_withWindow g name { w with refusals := w.refusals + 1 }

theorem allow_of_known (now : Instant) (hpos : 0 < g.limitFor name) (hknown : (g.seen name).contains value) :
    g.allow now name value = ⟨g.withWindow name { g.windowOf name with
      lastSeen := (g.seen name).insert value now }, some true, 0⟩ := by
  simp only [allow, Nat.ne_of_gt hpos, if_false]
  exact if_pos hknown

theorem allow_of_room (now : Instant) (hnew : ¬ (g.seen name).contains value)
    (hroom : (g.seen name).size < g.limitFor name) :
    g.allow now name value = ⟨g.withWindow name { g.windowOf name with
      lastSeen := (g.seen name).insert value now }, some true, 0⟩ := by
  have hroom' : (g.windowOf name).size < g.limitFor name := hroom
  simp only [allow, Nat.ne_of_gt (Nat.zero_lt_of_lt hroom), if_false, hroom', if_true, admitNew]
  exact if_neg hnew

theorem allow_of_full (hpos : 0 < g.limitFor name) (hnew : ¬ (g.seen name).contains value)
    (hfull : g.limitFor name ≤ (g.seen name).size) (hc : now.sub? g.window = some cutoff) :
    g.allow now name value =
      (let w := (g.windowOf name).evictBefore cutoff
       let a := g.admitNew now name value w
       ⟨a.1, some a.2, (g.windowOf name).size - w.size⟩) := by
  have hfull' : ¬ (g.windowOf name).size < g.limitFor name := Nat.not_lt.2 hfull
  simp only [allow, Nat.ne_of_gt hpos, if_false, hfull', hc]
  exact if_neg hnew

/-- What asking about a value can do: refuse it, keep or admit it, admit it in the place of expired
values, or refuse it although the expired values are gone. -/
theorem allow_cases (g : ValueGuard) (name value : String) (hc : now.sub? g.window = some cutoff) :
    let kept := (g.seen name).filter (fun _ t ↦ cutoff ≤ t)
    let a := g.allow now name value
    (g.limitFor name = 0 ∧ a.admitted = some false ∧ a.guard.seen = g.seen) ∨
    (0 < g.limitFor name ∧
      ((g.seen name).contains value ∨ (g.seen name).size < g.limitFor name) ∧
      a.admitted = some true ∧
      a.guard.seen = Function.update g.seen name ((g.seen name).insert value now)) ∨
    (¬ (g.seen name).contains value ∧ kept.size < g.limitFor name ∧ a.admitted = some true ∧
      a.guard.seen = Function.update g.seen name (kept.insert value now)) ∨
    (0 < g.limitFor name ∧ ¬ (g.seen name).contains value ∧ g.limitFor name ≤ kept.size ∧
      a.admitted = some false ∧ a.guard.seen = Function.update g.seen name kept) := by
  intro kept a
  by_cases hzero : g.limitFor name = 0
  · have ha : a = ⟨g.refuse name (g.windowOf name), some false, 0⟩ := by simp [a, allow, hzero]
    refine Or.inl ⟨hzero, by rw [ha], ?_⟩
    rw [ha, seen_refuse]
    exact Function.update_eq_self name g.seen
  have hpos : 0 < g.limitFor name := Nat.pos_of_ne_zero hzero
  by_cases hknown : (g.seen name).contains value
  · have ha := allow_of_known now hpos hknown
    exact Or.inr (Or.inl ⟨hpos, Or.inl hknown, by simp [a, ha], by simp [a, ha, seen_withWindow]⟩)
  by_cases hroom : (g.seen name).size < g.limitFor name
  · have ha := allow_of_room now hknown hroom
    exact Or.inr (Or.inl ⟨hpos, Or.inr hroom, by simp [a, ha], by simp [a, ha, seen_withWindow]⟩)
  have ha := allow_of_full hpos hknown (Nat.not_lt.1 hroom) hc
  by_cases hfits : kept.size < g.limitFor name
  · have hfits' : ((g.windowOf name).evictBefore cutoff).size < g.limitFor name := hfits
    refine Or.inr (Or.inr (Or.inl ⟨hknown, hfits, ?_, ?_⟩))
    · simp [a, ha, admitNew, hfits']
    · simp only [a, ha, admitNew, hfits', if_true, seen_withWindow]
      rfl
  · have hfits' : ¬ ((g.windowOf name).evictBefore cutoff).size < g.limitFor name := hfits
    refine Or.inr (Or.inr (Or.inr ⟨hpos, hknown, Nat.not_lt.1 hfits, ?_, ?_⟩))
    · simp [a, ha, admitNew, hfits']
    · simp only [a, ha, admitNew, hfits', if_false, seen_refuse]
      rfl

def SameRules (g g' : ValueGuard) : Prop := g.window = g'.window ∧ g.limitFor = g'.limitFor

theorem sameRules_allow (g : ValueGuard) (now : Instant) (name value : String) :
    SameRules (g.allow now name value).guard g := by
  simp only [allow, admitNew]
  repeat' split
  all_goals exact ⟨rfl, rfl⟩

theorem sweep?_spec {s : Sweep} (hs : g.sweep? now = some s) (hc : now.sub? g.window = some cutoff) :
    SameRules s.guard g ∧
      ∀ name, s.guard.seen name = (g.seen name).filter (fun _ t ↦ cutoff ≤ t) := by
  simp only [sweep?, hc, Option.map_some, Option.some.injEq] at hs
  subst hs
  refine ⟨⟨rfl, rfl⟩, fun name ↦ ?_⟩
  simp only [seen, windowOf, Dict.get?_filter, Dict.get?_map]
  cases g.windows.get? name with
  | none => rfl
  | some w =>
    simp only [Option.map_some, Option.filter]
    split
    · rfl
    · -- A window that is dropped holds no value, so an absent window reads the same.
      have hsize : (w.evictBefore cutoff).size = 0 := by simp_all
      exact (Dict.ext (List.eq_nil_of_length_eq_zero hsize)).symm

end ValueGuard

inductive GuardCall where
  | allow (name value : String)
  | sweep (time : Instant)

/-- A call, and what the clock shows when it is made. -/
structure GuardStep where
  clock : Instant
  call : GuardCall

/-- The instant at which the window ends that a call looks at. -/
def GuardStep.moment (s : GuardStep) : Instant :=
  match s.call with
  | .allow _ _ => s.clock
  | .sweep time => time

/-- Whether the step asks about a value of the attribute. -/
def GuardStep.asks (name : String) (s : GuardStep) : Bool :=
  match s.call with
  | .allow n _ => n = name
  | .sweep _ => false

structure AdmittedValue where
  time : Instant
  name : String
  value : String

/-- A guard with what it has admitted, the newest first. -/
structure GuardHistory where
  guard : ValueGuard
  admitted : List AdmittedValue := []

namespace GuardHistory

def step (h : GuardHistory) (s : GuardStep) : GuardHistory :=
  match s.call with
  | .allow name value =>
    let a := h.guard.allow s.clock name value
    ⟨a.guard, if a.admitted = some true then ⟨s.clock, name, value⟩ :: h.admitted else h.admitted⟩
  | .sweep time => ⟨((h.guard.sweep? time).map Sweep.guard).getD h.guard, h.admitted⟩

/-- The history of a guard over a run of calls. -/
def run (g : ValueGuard) (l : List GuardStep) : GuardHistory := l.foldl step ⟨g, []⟩

/-- When the value was last admitted for the attribute. -/
def lastAdmitted (h : GuardHistory) (name value : String) : Option Instant :=
  (h.admitted.find? (fun a ↦ a.name = name ∧ a.value = value)).map AdmittedValue.time

/-- The values of the attribute, other than the given one, whose last admission is not before
`cutoff`. -/
def liveOthers (h : GuardHistory) (name value : String) (cutoff : Instant) : Finset String :=
  (h.admitted.map AdmittedValue.value).toFinset.filter
    (fun u ↦ u ≠ value ∧ (h.lastAdmitted name u).any (cutoff ≤ ·))

@[simp] theorem run_nil (g : ValueGuard) : run g [] = ⟨g, []⟩ := rfl

@[simp] theorem run_concat (g : ValueGuard) (l : List GuardStep) (s : GuardStep) :
    run g (l ++ [s]) = (run g l).step s := by simp [run]

theorem sameRules_step (h : GuardHistory) (s : GuardStep) :
    ValueGuard.SameRules (h.step s).guard h.guard := by
  unfold step
  split
  · exact ValueGuard.sameRules_allow h.guard _ _ _
  · rename_i time _
    cases hs : h.guard.sweep? time with
    | none => exact ⟨rfl, rfl⟩
    | some w =>
      obtain ⟨cutoff, hc, _⟩ := Option.map_eq_some_iff.1 hs
      exact (ValueGuard.sweep?_spec hs hc).1

theorem sameRules_run (g : ValueGuard) (l : List GuardStep) :
    ValueGuard.SameRules (run g l).guard g := by
  induction l using List.reverseRecOn with
  | nil => exact ⟨rfl, rfl⟩
  | append_singleton l s ih =>
    obtain ⟨hw, hl⟩ := sameRules_step (run g l) s
    rw [run_concat]
    exact ⟨hw.trans ih.1, hl.trans ih.2⟩

theorem mem_liveOthers {h : GuardHistory} {name value u : String} {cutoff : Instant} :
    u ∈ h.liveOthers name value cutoff ↔
      u ≠ value ∧ ∃ t, h.lastAdmitted name u = some t ∧ cutoff ≤ t := by
  simp only [liveOthers, Finset.mem_filter, List.mem_toFinset, Option.any_eq_true, decide_eq_true_eq]
  refine ⟨fun ⟨_, hu, hlive⟩ ↦ ⟨hu, hlive⟩, fun ⟨hu, t, ht, hct⟩ ↦ ⟨?_, hu, t, ht, hct⟩⟩
  obtain ⟨a, ha, _⟩ := Option.map_eq_some_iff.1 ht
  have hau : a.name = name ∧ a.value = u := by simpa using List.find?_some ha
  exact hau.2 ▸ List.mem_map_of_mem (List.mem_of_find?_eq_some ha)

end GuardHistory

end FlowCorrelation
