import FlowCorrelation.Proofs.Enrichment.Frame
import Mathlib.Data.Finset.Option

namespace FlowCorrelation

namespace ValueGuard

variable {g g' g'' : ValueGuard} {now : Instant} {service name value k : String}
  {names : List String} {a : Attributes} {first rest : String → Finset String}

def knownValues (g : ValueGuard) (name : String) : Finset String := (g.seen name).keySet

def Overfills (limit : ℕ) (asked known : Finset String) : Prop :=
  ¬ asked ⊆ known ∧ limit < (known ∪ asked).card

theorem overfills_union {limit : ℕ} {first rest known : Finset String} :
    Overfills limit (first ∪ rest) known ↔
      Overfills limit first known ∨ Overfills limit rest (known ∪ first) := by
  constructor
  · rintro ⟨hnew, hmany⟩
    by_cases hrest : rest ⊆ known ∪ first
    · have hunion : known ∪ (first ∪ rest) = known ∪ first := by
        rw [← Finset.union_assoc, Finset.union_eq_left.2 hrest]
      refine Or.inl ⟨?_, hunion ▸ hmany⟩
      intro hfirst
      rw [Finset.union_eq_left.2 hfirst] at hrest
      exact hnew (Finset.union_subset hfirst hrest)
    · rw [← Finset.union_assoc] at hmany
      exact Or.inr ⟨hrest, hmany⟩
  · rintro (⟨hnew, hmany⟩ | ⟨hnew, hmany⟩)
    · refine ⟨fun hall ↦ hnew (Finset.union_subset_left hall), hmany.trans_le ?_⟩
      apply Finset.card_le_card
      exact Finset.union_subset_union_right Finset.subset_union_left
    · rw [Finset.union_assoc] at hmany
      refine ⟨fun hall ↦ hnew ?_, hmany⟩
      exact (Finset.union_subset_right hall).trans Finset.subset_union_left

def Overfilled (g : ValueGuard) (asked : String → Finset String) : Prop :=
  ∃ name, 0 < g.limitFor name ∧ Overfills (g.limitFor name) (asked name) (g.knownValues name)

structure Learns (g g' : ValueGuard) (asked : String → Finset String) : Prop where
  rules : SameRules g' g
  known : ∀ name, 0 < g.limitFor name → g'.knownValues name = g.knownValues name ∪ asked name

theorem Learns.trans (h : g.Learns g' first) (h' : g'.Learns g'' rest) :
    g.Learns g'' (fun name ↦ first name ∪ rest name) := by
  refine ⟨⟨h'.rules.1.trans h.rules.1, h'.rules.2.trans h.rules.2⟩, ?_⟩
  intro name hpos
  have hpos' : 0 < g'.limitFor name := h.rules.2 ▸ hpos
  rw [h'.known name hpos', h.known name hpos, Finset.union_assoc]

theorem Learns.overfilled_iff (h : g.Learns g' first) :
    g.Overfilled (fun name ↦ first name ∪ rest name) ↔ g.Overfilled first ∨ g'.Overfilled rest := by
  simp only [Overfilled, overfills_union, and_or_left, exists_or]
  refine or_congr_right (exists_congr (fun name ↦ ?_))
  rw [h.rules.2]
  apply and_congr_right
  intro hpos
  rw [h.known name hpos]

theorem Overfilled.union (h : g.Overfilled first) (rest : String → Finset String) :
    g.Overfilled (fun name ↦ first name ∪ rest name) := by
  obtain ⟨name, hpos, hover⟩ := h
  exact ⟨name, hpos, overfills_union.2 (Or.inl hover)⟩

def only (name value : String) : String → Finset String :=
  Function.update (fun _ ↦ ∅) name {value}

theorem overfilled_only_iff : g.Overfilled (only name value) ↔ 0 < g.limitFor name ∧
    ¬ (g.seen name).contains value ∧ g.limitFor name ≤ (g.seen name).size := by
  have hmem : value ∈ g.knownValues name ↔ (g.seen name).contains value := Dict.mem_keySet
  have hself : Overfills (g.limitFor name) {value} (g.knownValues name) ↔
      ¬ (g.seen name).contains value ∧ g.limitFor name ≤ (g.seen name).size := by
    rw [Overfills, Finset.singleton_subset_iff, hmem]
    apply and_congr_right
    intro hnew
    have hcard : (g.knownValues name ∪ {value}).card = (g.seen name).size + 1 := by
      rw [Finset.union_comm, ← Finset.insert_eq, Finset.card_insert_of_notMem (hmem.not.2 hnew),
        knownValues, Dict.card_keySet]
    omega
  constructor
  · rintro ⟨name', hpos, hover⟩
    by_cases hname : name' = name
    · subst hname
      rw [only, Function.update_self] at hover
      exact ⟨hpos, hself.1 hover⟩
    · rw [only, Function.update_of_ne hname] at hover
      exact absurd (Finset.empty_subset _) hover.1
  · rintro ⟨hpos, hfull⟩
    refine ⟨name, hpos, ?_⟩
    rw [only, Function.update_self]
    exact hself.2 hfull

theorem admitted_eq_none_iff (hc : now.sub? g.window = none) :
    (g.allow now name value).admitted = none ↔ g.Overfilled (only name value) := by
  rw [overfilled_only_iff]
  rcases g.allow_cases_of_sub?_eq_none name value hc with
    ⟨hzero, ha, -⟩ | ⟨-, hroom, ha, -⟩ | ⟨hpos, hnew, hfull, ha, -⟩
  · simp [ha, hzero]
  · rw [ha]
    refine iff_of_false (by simp) ?_
    rintro ⟨-, hnew, hfull⟩
    rcases hroom with hknown | hroom
    · exact hnew hknown
    · omega
  · exact iff_of_true ha ⟨hpos, hnew, hfull⟩

theorem learns_allow (hc : now.sub? g.window = none)
    (ha : (g.allow now name value).admitted ≠ none) :
    g.Learns (g.allow now name value).guard (only name value) := by
  refine ⟨g.sameRules_allow now name value, ?_⟩
  intro k hpos
  by_cases hk : k = name
  · subst hk
    rw [only, Function.update_self, Finset.union_comm, ← Finset.insert_eq]
    rcases g.allow_cases_of_sub?_eq_none k value hc with
      ⟨hzero, -, -⟩ | ⟨-, -, -, hseen⟩ | ⟨-, -, -, hnone, -⟩
    · omega
    · rw [knownValues, hseen, Function.update_self, Dict.keySet_insert]
      rfl
    · exact absurd hnone ha
  · rw [only, Function.update_of_ne hk, Finset.union_empty, knownValues,
      seen_allow_of_ne now value (Ne.symm hk)]
    rfl

def valuesOf (names : List String) (a : Attributes) (name : String) : Finset String :=
  if name ∈ names then (a.get? name).toFinset.erase overflowValue else ∅

theorem valuesOf_cons_of_skipped (h : ∀ v, a.get? name = some v → v = overflowValue) :
    valuesOf (name :: names) a = valuesOf names a := by
  funext k
  by_cases hk : k = name
  · subst hk
    have hempty : (a.get? k).toFinset.erase overflowValue = ∅ := by
      ext v
      simpa using fun hne hv ↦ hne (h v hv)
    simp [valuesOf, hempty]
  · simp [valuesOf, hk]

theorem valuesOf_subset_of_get? (h : a.get? name = some value) :
    valuesOf names a name ⊆ {value} := by
  unfold valuesOf
  split
  · rw [h, Option.toFinset_some]
    exact Finset.erase_subset _ _
  · exact Finset.empty_subset _

theorem valuesOf_cons_of_asked {b : Attributes} (hv : a.get? name = some value)
    (hne : value ≠ overflowValue) (hb : b = a ∨ b = a.insert name overflowValue) :
    valuesOf (name :: names) a = fun k ↦ only name value k ∪ valuesOf names b k := by
  funext k
  by_cases hk : k = name
  · subst hk
    have hfirst : valuesOf (k :: names) a k = {value} := by
      rw [valuesOf, if_pos List.mem_cons_self, hv, Option.toFinset_some]
      exact Finset.erase_eq_of_notMem (by simpa using Ne.symm hne)
    have hrest : valuesOf names b k ⊆ {value} := by
      rcases hb with rfl | rfl
      · exact valuesOf_subset_of_get? hv
      · simp [valuesOf, Option.toFinset]
    rw [hfirst, only, Function.update_self, Finset.union_eq_left.2 hrest]
  · have hsame : b.get? k = a.get? k := by
      rcases hb with rfl | rfl
      · rfl
      · exact Dict.get?_insert_of_ne a (Ne.symm hk) overflowValue
    simp [valuesOf, only, hk, hsame]

theorem learns_of_empty (g : ValueGuard) {asked : String → Finset String}
    (h : ∀ name, asked name = ∅) : g.Learns g asked := by
  refine ⟨⟨rfl, rfl⟩, ?_⟩
  intro name _
  rw [h, Finset.union_empty]

theorem not_overfilled_of_empty {asked : String → Finset String} (h : ∀ name, asked name = ∅) :
    ¬ g.Overfilled asked := by
  rintro ⟨name, -, hnew, -⟩
  rw [h] at hnew
  exact hnew (Finset.empty_subset _)

/-- Without the opening of the window the attributes come through unless there is no room for their
values, and then the guard has learned them. -/
theorem bound_of_sub?_eq_none (hc : now.sub? g.window = none) (service : String)
    (names : List String) (a : Attributes) :
    ((g.bound now service names a).attributes = none ↔ g.Overfilled (valuesOf names a)) ∧
      ((g.bound now service names a).attributes ≠ none →
        g.Learns (g.bound now service names a).guard (valuesOf names a)) := by
  induction names generalizing g a with
  | nil =>
    have hempty : ∀ name, valuesOf [] a name = ∅ := fun _ ↦ rfl
    exact ⟨iff_of_false (by simp [bound]) (not_overfilled_of_empty hempty),
      fun _ ↦ g.learns_of_empty hempty⟩
  | cons name names ih =>
    rcases g.bound_cons_cases now service name names a with
      ⟨hskip, hall⟩ | ⟨v, hv, hne, hcases⟩
    · rw [hall, valuesOf_cons_of_skipped hskip]
      exact ih hc a
    rcases hcases with ⟨hnone, -, hattributes⟩ | ⟨b, hb, hguard, hattributes⟩
    · have hfull := (admitted_eq_none_iff hc).1 hnone
      rw [hattributes, valuesOf_cons_of_asked hv hne (Or.inl rfl)]
      exact ⟨iff_of_true rfl (hfull.union _), fun h ↦ absurd rfl h⟩
    · have hanswer : (g.allow now name v).admitted ≠ none := by
        rcases hb with ⟨-, ha⟩ | ⟨-, ha⟩ <;> simp [ha]
      have hlearns := learns_allow hc hanswer
      have hroom := (admitted_eq_none_iff hc).not.1 hanswer
      have hc' : now.sub? (g.allow now name v).guard.window = none := by
        rw [window_allow]
        exact hc
      obtain ⟨hnone, hlearned⟩ := ih hc' b
      rw [hattributes, hguard, valuesOf_cons_of_asked hv hne (hb.imp And.left And.left)]
      refine ⟨?_, fun h ↦ hlearns.trans (hlearned h)⟩
      rw [hnone, hlearns.overfilled_iff, or_iff_right hroom]

end ValueGuard

namespace Enricher

variable {e : Enricher} {t : Moment} {r : Record} {p : Passage}

/-- The values of a bounded attribute with which records come to the guard. -/
def asked (e : Enricher) (batch : List Record) (name : String) : Finset String :=
  if name ∈ e.values.bounded then
    (batch.filterMap
      (fun r ↦ (e.normalize (e.dropAttributes r.attributes)).get? name)).toFinset.erase overflowValue
  else ∅

/-- Whether the guard comes to have no answer to one of the records. -/
def Stalls (e : Enricher) (now : Instant) (batch : List Record) : Prop :=
  ∃ g, e.guard = some g ∧ now.sub? g.window = none ∧ g.Overfilled (e.asked batch)

theorem asked_cons (e : Enricher) (r : Record) (rs : List Record) : e.asked (r :: rs) = fun name ↦
    ValueGuard.valuesOf e.values.bounded (e.normalize (e.dropAttributes r.attributes)) name ∪
      e.asked rs name := by
  funext name
  ext v
  by_cases hname : name ∈ e.values.bounded
  · simp only [asked, ValueGuard.valuesOf, hname, if_true, Finset.mem_union, Finset.mem_erase,
      List.mem_toFinset, Option.mem_toFinset, Option.mem_def, List.mem_filterMap, List.mem_cons,
      exists_eq_or_imp, and_or_left]
  · simp [asked, ValueGuard.valuesOf, hname]

theorem stalls_of_pass?_eq_none (h : e.pass? t r = none) (rs : List Record) :
    e.Stalls t.now (r :: rs) := by
  obtain ⟨g, hg, hc⟩ := sub?_eq_none_of_pass? h
  have hbounding : (e.bounding t r).2.1 = none := Option.map_eq_none_iff.1 h
  have hbound := (bounding_of_guarded hg t r).2.symm.trans hbounding
  refine ⟨g, hg, hc, ?_⟩
  rw [asked_cons]
  exact ((ValueGuard.bound_of_sub?_eq_none hc _ _ _).1.1 hbound).union _

theorem stalls_cons_iff (h : e.pass? t r = some p) (rs : List Record) :
    e.Stalls t.now (r :: rs) ↔ (e.after t r).Stalls t.now rs := by
  have hafter := e.guard_after t r
  cases hguard : e.guard with
  | none =>
    rw [hguard] at hafter
    simp [Stalls, hguard, hafter]
  | some g =>
    have hbound : (g.bound t.now r.envelope.service e.values.bounded
        (e.normalize (e.dropAttributes r.attributes))).attributes ≠ none := by
      rw [← (bounding_of_guarded hguard t r).2, bounding_of_pass? h]
      exact Option.some_ne_none _
    have hwindow := (g.sameRules_bound t.now r.envelope.service e.values.bounded
      (e.normalize (e.dropAttributes r.attributes))).1
    rw [hguard, Option.map_some] at hafter
    simp only [Stalls, hguard, hafter, Option.some.injEq, exists_eq_left', hwindow]
    apply and_congr_right
    intro hc
    obtain ⟨hnone, hlearns⟩ := ValueGuard.bound_of_sub?_eq_none hc r.envelope.service
      e.values.bounded (e.normalize (e.dropAttributes r.attributes))
    rw [asked_cons, (hlearns hbound).overfilled_iff, or_iff_right (hnone.not.1 hbound)]
    rfl

theorem not_stalls_nil (e : Enricher) (now : Instant) : ¬ e.Stalls now [] := by
  rintro ⟨g, -, -, hover⟩
  refine ValueGuard.not_overfilled_of_empty ?_ hover
  intro name
  simp [asked]

/-- One record does not come through exactly if the guard has no answer to it. -/
theorem pass?_eq_none_iff : e.pass? t r = none ↔ e.Stalls t.now [r] := by
  cases hp : e.pass? t r with
  | none => exact iff_of_true rfl (stalls_of_pass?_eq_none hp [])
  | some p => exact iff_of_false nofun (fun h ↦ not_stalls_nil _ _ ((stalls_cons_iff hp []).1 h))

theorem passages?_eq_none_iff {now : Instant} {random : Nat → List UInt8} {i : Nat}
    {batch : List Record} : passages? now random i e batch = none ↔ e.Stalls now batch := by
  induction batch generalizing i e with
  | nil => exact iff_of_false (by simp [passages?]) (e.not_stalls_nil now)
  | cons r rs ih =>
    simp only [passages?]
    cases hp : e.pass? ⟨now, random i⟩ r with
    | none => exact iff_of_true rfl (stalls_of_pass?_eq_none hp rs)
    | some p => rw [Option.map_eq_none_iff, ih, stalls_cons_iff hp]

/-- A batch comes through unless the guard has no answer to one of its records, and then each record
comes out in its place, changed within its frame. -/
theorem process_confined (e : Enricher) (c : EnrichmentCounters) (now : Instant)
    (random : Nat → List UInt8) (batch : List Record) :
    ((e.process c now random batch).result = none ↔ e.Stalls now batch) ∧
    ∀ out, (e.process c now random batch).result = some out →
      ∃ l, passages? now random 0 e batch = some l ∧ l.map Passage.input = batch ∧
        l.map Passage.output = out ∧ ∀ p ∈ l, p.IsConfined e := by
  rw [process_result]
  constructor
  · rw [Option.map_eq_none_iff]
    exact passages?_eq_none_iff
  · intro out hout
    obtain ⟨l, hl, rfl⟩ := Option.map_eq_some_iff.1 hout
    exact ⟨l, hl, map_input_of_passages? hl, rfl, fun p hp ↦ isConfined_of_mem_passages hl hp⟩

section Users

/-- A log entry with a flow id and a user. -/
def userLog (user : String) : Record :=
  .log { timestamp := ⟨0, 0⟩
         service := "s"
         attributes := Dict.ofList [("correlation_id", "x"), ("user.id", user)] }

/-- An enricher that admits one user. -/
def oneUser : Enricher := .ofSettings {} { maxValues := 1, bounded := ["user.id"] }

/-- Of two users the second is replaced, and nothing else. -/
theorem process_confined_beside_second_user :
    let batch := [userLog "u", userLog "v"]
    let random : Nat → List UInt8 := fun _ ↦ [0, 1, 2, 3]
    ∃ (l : List Passage) (out : List Record),
      (oneUser.process {} ⟨0, 0⟩ random batch).result = some out ∧
      out.map (·.attributes.get? "user.id") = [some "u", some overflowValue] ∧
      l.map Passage.input = batch ∧ l.map Passage.output = out ∧ ∀ p ∈ l, p.IsConfined oneUser := by
  intro batch random
  have husers : (oneUser.process {} ⟨0, 0⟩ random batch).result.map
      (·.map (·.attributes.get? "user.id")) = some [some "u", some overflowValue] := by
    decide +kernel
  obtain ⟨out, hout, husers⟩ := Option.map_eq_some_iff.1 husers
  obtain ⟨l, -, hinput, houtput, hconfined⟩ :=
    (process_confined oneUser {} ⟨0, 0⟩ random batch).2 out hout
  exact ⟨l, out, hout, husers, hinput, houtput, hconfined⟩

/-- At the beginning of the calendar the same batch does not come through. -/
theorem not_process_of_second_user_at_first_second :
    ¬ ∃ out, (oneUser.process {} ⟨Instant.firstSecond, 0⟩ (fun _ ↦ [0, 1, 2, 3])
      [userLog "u", userLog "v"]).result = some out := by
  have hnone : (oneUser.process {} ⟨Instant.firstSecond, 0⟩ (fun _ ↦ [0, 1, 2, 3])
      [userLog "u", userLog "v"]).result.isSome = false := by decide +kernel
  rintro ⟨out, hout⟩
  rw [hout] at hnone
  cases hnone

end Users

end Enricher

end FlowCorrelation
