import FlowCorrelation.Enrichment.Enricher
import FlowCorrelation.Proofs.ValueGuard.Memory

namespace FlowCorrelation

namespace ValueGuard

variable {g : ValueGuard} {now since : Instant} {service name value k u : String}
  {names : List String} {a a' : Attributes}

/-- An attribute is passed over if it is absent or holds the overflow value. Otherwise the guard is
asked, and if it answers the attributes go on as they are or with the overflow value in place of the
one that was refused. -/
theorem bound_cons_cases (g : ValueGuard) (now : Instant) (service name : String)
    (names : List String) (a : Attributes) :
    let all := g.bound now service (name :: names) a
    ((∀ v, a.get? name = some v → v = overflowValue) ∧ all = g.bound now service names a) ∨
    ∃ v, a.get? name = some v ∧ v ≠ overflowValue ∧
      (((g.allow now name v).admitted = none ∧ all.guard = (g.allow now name v).guard ∧
        all.attributes = none) ∨
      ∃ b, (b = a ∧ (g.allow now name v).admitted = some true ∨
          b = a.insert name overflowValue ∧ (g.allow now name v).admitted = some false) ∧
        all.guard = ((g.allow now name v).guard.bound now service names b).guard ∧
        all.attributes = ((g.allow now name v).guard.bound now service names b).attributes) := by
  intro all
  cases hv : a.get? name with
  | none => exact Or.inl ⟨by simp, by simp [all, bound, hv]⟩
  | some v =>
    by_cases hne : v = overflowValue
    · exact Or.inl ⟨by simp [hne], by simp [all, bound, hv, hne]⟩
    · refine Or.inr ⟨v, rfl, hne, ?_⟩
      rcases hadmitted : (g.allow now name v).admitted with _ | _ | _
      · exact Or.inl ⟨rfl, by simp [all, bound, hv, hne, hadmitted],
          by simp [all, bound, hv, hne, hadmitted]⟩
      · exact Or.inr ⟨_, Or.inr ⟨rfl, rfl⟩, by simp [all, bound, hv, hne, hadmitted]⟩
      · exact Or.inr ⟨_, Or.inl ⟨rfl, rfl⟩, by simp [all, bound, hv, hne, hadmitted]⟩

/-- What no question changes, bounding does not change. -/
theorem bound_induction {P : ValueGuard → Prop}
    (hallow : ∀ (g : ValueGuard) name value, P g → P (g.allow now name value).guard) (h : P g)
    (service : String) (names : List String) (a : Attributes) :
    P (g.bound now service names a).guard := by
  induction names generalizing g a with
  | nil => exact h
  | cons name names ih =>
    rcases g.bound_cons_cases now service name names a with
      ⟨-, hall⟩ | ⟨v, -, -, ⟨-, hguard, -⟩ | ⟨b, -, hguard, -⟩⟩
    · rw [hall]
      exact ih h a
    · rw [hguard]
      exact hallow g name v h
    · rw [hguard]
      exact ih (hallow g name v h) b

theorem sameRules_bound (g : ValueGuard) (now : Instant) (service : String) (names : List String)
    (a : Attributes) : SameRules (g.bound now service names a).guard g := by
  refine bound_induction (P := fun g' ↦ SameRules g' g) (fun g' name value h ↦ ?_) ⟨rfl, rfl⟩ _ _ _
  obtain ⟨hwindow, hlimit⟩ := g'.sameRules_allow now name value
  exact ⟨hwindow.trans h.1, hlimit.trans h.2⟩

theorem Remembers.bound (h : g.Remembers since k u)
    (hopened : Instant.OpensBy g.window now since) (hnow : since ≤ now)
    (service : String) (names : List String) (a : Attributes) :
    (g.bound now service names a).guard.Remembers since k u := by
  refine (bound_induction (P := fun g' ↦ g'.window = g.window ∧ g'.Remembers since k u)
    (fun g' name value ⟨hwindow, hseen⟩ ↦ ?_) ⟨rfl, h⟩ service names a).2
  exact ⟨(g'.window_allow now name value).trans hwindow,
    hseen.allow (hwindow ▸ hopened) hnow name value⟩

theorem Closed.bound (h : g.Closed now k)
    (hopened : Instant.OpensBy g.window now now)
    (service : String) (names : List String) (a : Attributes) :
    (g.bound now service names a).guard.Closed now k := by
  refine (bound_induction (P := fun g' ↦ g'.window = g.window ∧ g'.Closed now k)
    (fun g' name value ⟨hwindow, hclosed⟩ ↦ ?_) ⟨rfl, h⟩ service names a).2
  exact ⟨(g'.window_allow now name value).trans hwindow,
    (hclosed.allow (hwindow ▸ hopened) name value).1⟩

theorem Settled.bound (h : g.Settled now k u)
    (hopened : Instant.OpensBy g.window now now)
    (service : String) (names : List String) (a : Attributes) :
    (g.bound now service names a).guard.Settled now k u ∧
      ((g.bound now service names a).guard.Knows k u ↔ g.Knows k u) := by
  refine (bound_induction (P := fun g' ↦ g'.window = g.window ∧ g'.Settled now k u ∧
    (g'.Knows k u ↔ g.Knows k u)) (fun g' name value ⟨hwindow, hsettled, hknows⟩ ↦ ?_)
    ⟨rfl, h, Iff.rfl⟩ service names a).2
  obtain ⟨hsettled', hknows'⟩ := hsettled.allow (hwindow ▸ hopened) name value
  exact ⟨(g'.window_allow now name value).trans hwindow, hsettled', hknows'.trans hknows⟩

/-- Bounding keeps the value of an attribute or puts the overflow value in its place, and the latter
only where the attribute is bounded and has a value. -/
theorem get?_bound_cases (h : (g.bound now service names a).attributes = some a') (k : String) :
    a'.get? k = a.get? k ∨
      (k ∈ names ∧ (a.get? k).isSome ∧ a'.get? k = some overflowValue) := by
  induction names generalizing g a with
  | nil =>
    obtain rfl : a = a' := Option.some.inj h
    exact Or.inl rfl
  | cons name names ih =>
    rcases g.bound_cons_cases now service name names a with
      ⟨-, hall⟩ | ⟨v, hv, -, ⟨-, -, hnone⟩ | ⟨b, hb, -, hattributes⟩⟩
    · rcases ih (hall ▸ h) with hsame | ⟨hk, hreplaced⟩
      · exact Or.inl hsame
      · exact Or.inr ⟨List.mem_cons_of_mem name hk, hreplaced⟩
    · rw [hnone] at h
      cases h
    have hrest := ih (hattributes.symm.trans h)
    rcases hb with ⟨rfl, -⟩ | ⟨rfl, -⟩
    · rcases hrest with hsame | ⟨hk, hreplaced⟩
      · exact Or.inl hsame
      · exact Or.inr ⟨List.mem_cons_of_mem name hk, hreplaced⟩
    · by_cases hname : name = k
      · subst hname
        refine Or.inr ⟨List.mem_cons_self, by simp [hv], ?_⟩
        rcases hrest with hsame | ⟨-, -, hreplaced⟩
        · rw [hsame, Dict.get?_insert_self]
        · exact hreplaced
      · rw [Dict.get?_insert_of_ne a hname] at hrest
        rcases hrest with hsame | ⟨hk, hreplaced⟩
        · exact Or.inl hsame
        · exact Or.inr ⟨List.mem_cons_of_mem name hk, hreplaced⟩

theorem sub?_eq_none_of_bound (h : (g.bound now service names a).attributes = none) :
    now.sub? g.window = none := by
  induction names generalizing g a with
  | nil => cases h
  | cons name names ih =>
    rcases g.bound_cons_cases now service name names a with
      ⟨-, hall⟩ | ⟨v, -, -, ⟨hnone, -, -⟩ | ⟨b, -, -, hattributes⟩⟩
    · exact ih (hall ▸ h)
    · exact sub?_eq_none_of_unanswered hnone
    · exact g.window_allow now name v ▸ ih (hattributes.symm.trans h)

/-- A bounded value was kept, and the guard has seen it, or it was replaced, and its attribute is
closed. -/
theorem get?_bound (hopened : Instant.OpensBy g.window now since)
    (hnow : since ≤ now) (h : (g.bound now service names a).attributes = some a') (k : String) :
    (a'.get? k = a.get? k ∧ (k ∈ names → ∀ v, a.get? k = some v → v ≠ overflowValue →
      0 < g.limitFor k ∧ (g.bound now service names a).guard.Remembers since k v)) ∨
    (k ∈ names ∧ (∃ v, a.get? k = some v ∧ v ≠ overflowValue) ∧ a'.get? k = some overflowValue ∧
      (g.bound now service names a).guard.Closed now k) := by
  induction names generalizing g a with
  | nil =>
    obtain rfl : a = a' := Option.some.inj h
    exact Or.inl ⟨rfl, fun hk ↦ absurd hk List.not_mem_nil⟩
  | cons name names ih =>
    rcases g.bound_cons_cases now service name names a with
      ⟨hskip, hall⟩ | ⟨value, hvalue, hne, ⟨-, -, hnone⟩ | ⟨b, hb, hguard, hattributes⟩⟩
    · rw [hall] at h ⊢
      rcases ih hopened h with ⟨hsame, hkept⟩ | ⟨hk, hreplaced⟩
      · refine Or.inl ⟨hsame, fun hk v hv hne ↦ ?_⟩
        rcases List.mem_cons.1 hk with rfl | hk
        · exact absurd (hskip v hv) hne
        · exact hkept hk v hv hne
      · exact Or.inr ⟨List.mem_cons_of_mem name hk, hreplaced⟩
    · rw [hnone] at h
      cases h
    have hopened' : Instant.OpensBy (g.allow now name value).guard.window now since :=
      g.window_allow now name value ▸ hopened
    have hlimit := g.limitFor_allow now name value k
    rw [hattributes] at h
    rw [hguard]
    rcases hb with ⟨rfl, hadmitted⟩ | ⟨rfl, hadmitted⟩
    · rcases ih hopened' h with ⟨hsame, hkept⟩ | ⟨hk, hreplaced⟩
      · refine Or.inl ⟨hsame, fun hk v hv hne' ↦ ?_⟩
        by_cases hk' : k ∈ names
        · exact hlimit ▸ hkept hk' v hv hne'
        · obtain rfl : k = name := (List.mem_cons.1 hk).resolve_right hk'
          obtain rfl : value = v := Option.some.inj (hvalue.symm.trans hv)
          obtain ⟨hpos, t, ht, hle⟩ := remembers_of_admitted hadmitted
          exact ⟨hpos, Remembers.bound ⟨t, ht, Instant.le_trans hnow hle⟩ hopened' hnow
            service names b⟩
      · exact Or.inr ⟨List.mem_cons_of_mem name hk, hreplaced⟩
    · by_cases hk : name = k
      · subst hk
        refine Or.inr ⟨List.mem_cons_self, ⟨value, hvalue, hne⟩, ?_,
          (closed_of_refused hadmitted).bound (hopened'.mono hnow) service names _⟩
        rcases ih hopened' h with ⟨hsame, -⟩ | ⟨-, -, hreplaced, -⟩
        · rw [hsame, Dict.get?_insert_self]
        · exact hreplaced
      · have hother := a.get?_insert_of_ne hk overflowValue
        rcases ih hopened' h with ⟨hsame, hkept⟩ | ⟨hk', hvalue', hreplaced⟩
        · refine Or.inl ⟨hsame.trans hother, fun hk' v hv hne' ↦ ?_⟩
          have hmem := (List.mem_cons.1 hk').resolve_left (Ne.symm hk)
          exact hlimit ▸ hkept hmem v (hother.trans hv) hne'
        · exact Or.inr ⟨List.mem_cons_of_mem name hk', hother ▸ hvalue', hreplaced⟩

def revised (g : ValueGuard) (names : List String) (name value : String) : String :=
  if name ∈ names ∧ ¬ g.Knows name value then overflowValue else value

theorem revised_overflowValue (g : ValueGuard) (names : List String) (name : String) :
    g.revised names name overflowValue = overflowValue := by simp [revised]

theorem revised_of_knows (h : g.Knows name value) (names : List String) :
    g.revised names name value = value := by simp [revised, h]

theorem revised_of_not_mem (hk : k ∉ names) (g : ValueGuard) : g.revised names k = id := by
  funext v
  simp [revised, hk]

theorem get?_revised_of_settled (h : g.Settled now name value) (hvalue : a.get? name = some value)
    {b : Attributes} (hb : b = a ∧ (g.allow now name value).admitted = some true ∨
      b = a.insert name overflowValue ∧ (g.allow now name value).admitted = some false)
    (k : String) : b.get? k = (a.get? k).map (g.revised [name] k) := by
  rw [h.admitted] at hb
  by_cases hk : name = k
  · subst hk
    rcases hb with ⟨rfl, hknown⟩ | ⟨rfl, hunknown⟩
    · have hknown' : g.Knows name value := by simpa using hknown
      simp [hvalue, revised, hknown']
    · have hunknown' : ¬ g.Knows name value := by simpa using hunknown
      simp [hvalue, revised, hunknown']
  · rw [revised_of_not_mem (by simpa using Ne.symm hk), Option.map_id_apply]
    rcases hb with ⟨rfl, -⟩ | ⟨rfl, -⟩
    · rfl
    · exact a.get?_insert_of_ne hk overflowValue

/-- Of settled values those that are known stay, and the others are replaced. -/
theorem get?_bound_of_settled (hopened : Instant.OpensBy g.window now now) (service : String)
    (h : ∀ k ∈ names, ∀ v, a.get? k = some v → v ≠ overflowValue → g.Settled now k v) :
    ∃ a', (g.bound now service names a).attributes = some a' ∧
      ∀ k, a'.get? k = (a.get? k).map (g.revised names k) := by
  induction names generalizing g a with
  | nil => exact ⟨a, rfl, fun k ↦ by rw [revised_of_not_mem List.not_mem_nil, Option.map_id, id]⟩
  | cons name names ih =>
    rcases g.bound_cons_cases now service name names a with
      ⟨hskip, hall⟩ | ⟨value, hvalue, hne, ⟨hnone, -, -⟩ | ⟨b, hb, -, hattributes⟩⟩
    · obtain ⟨a', ha', hget⟩ := ih hopened (fun k hk ↦ h k (List.mem_cons_of_mem name hk))
      refine ⟨a', hall ▸ ha', fun k ↦ (hget k).trans (Option.map_congr (fun v hv ↦ ?_))⟩
      by_cases hk : k = name
      · rw [hskip v (hk ▸ hv), revised_overflowValue, revised_overflowValue]
      · simp [revised, hk]
    · rw [(h name List.mem_cons_self value hvalue hne).admitted] at hnone
      cases hnone
    have hbget := get?_revised_of_settled (h name List.mem_cons_self value hvalue hne) hvalue hb
    have hopened' : Instant.OpensBy (g.allow now name value).guard.window now now :=
      g.window_allow now name value ▸ hopened
    obtain ⟨a', ha', hget⟩ := ih hopened' (fun k hk v hv hv' ↦ by
      rw [hbget] at hv
      obtain ⟨v', ha, rfl⟩ := Option.map_eq_some_iff.1 hv
      have hsame : g.revised [name] k v' = v' := by
        unfold revised at hv' ⊢
        split
        · exact absurd (if_pos ‹_›) hv'
        · rfl
      rw [hsame] at hv' ⊢
      exact ((h k (List.mem_cons_of_mem name hk) v' ha hv').allow hopened name value).1)
    refine ⟨a', hattributes.trans ha', fun k ↦ ?_⟩
    rw [hget, hbget, Option.map_map]
    refine Option.map_congr (fun v hv ↦ ?_)
    simp only [Function.comp_apply]
    by_cases hv' : v = overflowValue
    · simp only [hv', revised_overflowValue]
    by_cases hk : k ∈ name :: names
    · have hknows := ((h k hk v hv hv').allow hopened name value).2
      by_cases hknown : g.Knows k v
      · rw [revised_of_knows hknown, revised_of_knows (hknows.2 hknown), revised_of_knows hknown]
      · by_cases hname : k = name
        · subst hname
          simp [revised, hknown]
        · simp [revised, hknows, hknown, hname, (List.mem_cons.1 hk).resolve_left hname]
    · obtain ⟨hname, hk⟩ := not_or.1 (fun hor ↦ hk (List.mem_cons.2 hor))
      simp [revised, hname, hk]

end ValueGuard

end FlowCorrelation
