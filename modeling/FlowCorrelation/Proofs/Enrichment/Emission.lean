import FlowCorrelation.Proofs.Enrichment.Attributes

namespace FlowCorrelation

inductive EnricherCall where
  | process (random : Nat → List UInt8) (batch : List Record)
  | sweep

/-- A call, and what the clock shows when it is made. A batch during which the clock moves on is one
of several calls. -/
structure EnricherStep where
  clock : Instant
  call : EnricherCall

/-- A record that was put out, and when. -/
structure Emission where
  time : Instant
  record : Record

/-- An enricher with its counts and what it has put out, the newest last. -/
structure EnricherHistory where
  enricher : Enricher
  counters : EnrichmentCounters := {}
  emitted : List Emission := []

namespace Enricher

variable {e : Enricher} {t : Moment} {r : Record} {p : Passage} {g : ValueGuard}
  {now since : Instant} {name v : String} {batch out : List Record} {random : Nat → List UInt8}
  {i : Nat} {c : EnrichmentCounters}

/-- The enricher after a sweep of its guard. Where there is no sweep it stays as it is. -/
def sweep (e : Enricher) (now : Instant) : Enricher :=
  { e with guard := e.guard.map (fun g ↦ ((g.sweep? now).map Sweep.guard).getD g) }

def GuardedBy (e : Enricher) (P : ValueGuard → Prop) (name : String) : Prop :=
  name ∈ e.values.bounded ∧ name ≠ e.idAttribute ∧ ∃ g, e.guard = some g ∧ P g

theorem GuardedBy.mono {P Q : ValueGuard → Prop} (h : e.GuardedBy P name) (hPQ : ∀ g, P g → Q g) :
    e.GuardedBy Q name := by
  obtain ⟨hbounded, hid, g, hg, hP⟩ := h
  exact ⟨hbounded, hid, g, hg, hPQ g hP⟩

theorem GuardedBy.after {P : ValueGuard → Prop} (h : e.GuardedBy P name)
    (hallow : ∀ (g : ValueGuard) name value, P g → P (g.allow t.now name value).guard)
    (r : Record) : (e.after t r).GuardedBy P name := by
  obtain ⟨hbounded, hid, g, hg, hP⟩ := h
  refine ⟨hbounded, hid, _, by rw [guard_after, hg, Option.map_some], ?_⟩
  exact ValueGuard.bound_induction hallow hP _ _ _

theorem GuardedBy.process_go {P : ValueGuard → Prop} (h : e.GuardedBy P name)
    (hallow : ∀ (g : ValueGuard) name value, P g → P (g.allow now name value).guard)
    (random : Nat → List UInt8) (i : Nat) (c : EnrichmentCounters) (batch : List Record) :
    (process.go now random i e c batch).enricher.GuardedBy P name :=
  process_go_induction (P := fun e ↦ e.GuardedBy P name)
    (fun _ random r he ↦ GuardedBy.after (t := ⟨now, random⟩) he hallow r) h random i c batch

theorem remembers_output (hp : e.pass? t r = some p)
    (h : e.GuardedBy (fun g ↦ Instant.OpensBy g.window t.now since) name) (hnow : since ≤ t.now)
    (hv : p.output.attributes.get? name = some v) (hne : v ≠ overflowValue) :
    (e.after t r).GuardedBy
      (fun g ↦ Instant.OpensBy g.window t.now since ∧ g.Remembers since name v) name := by
  obtain ⟨hbounded, hid, g, hg, hopened⟩ := h
  obtain ⟨a, ha, rfl⟩ := Option.map_eq_some_iff.1 hp
  have hattribute : a.get? name = some v := by
    rwa [get?_stamp_of_ne e _ (Ne.symm hid), Record.attributes_withAttributes] at hv
  refine ⟨hbounded, hid, _, by rw [guard_after, hg, Option.map_some], ?_, ?_⟩
  · rwa [(g.sameRules_bound _ _ _ _).1]
  · have hbound := (bounding_of_guarded hg t r).2.symm.trans ha
    rcases ValueGuard.get?_bound hopened hnow hbound name with
      ⟨hsame, hkept⟩ | ⟨-, -, hreplaced, -⟩
    · exact (hkept hbounded v (hsame.symm.trans hattribute) hne).2
    · exact absurd (Option.some.inj (hattribute.symm.trans hreplaced)) hne

theorem remembers_of_mem_process_go
    (h : e.GuardedBy (fun g ↦ Instant.OpensBy g.window now since) name) (hnow : since ≤ now)
    (hout : (process.go now random i e c batch).result = some out) (hr : r ∈ out)
    (hv : r.attributes.get? name = some v) (hne : v ≠ overflowValue) :
    (process.go now random i e c batch).enricher.GuardedBy (·.Remembers since name v) name := by
  induction batch generalizing i e c out with
  | nil =>
    obtain rfl : [] = out := Option.some.inj hout
    cases hr
  | cons r' rs ih =>
    have hwindow (g : ValueGuard) (name value : String) (hg : Instant.OpensBy g.window now since) :
        Instant.OpensBy (g.allow now name value).guard.window now since :=
      g.window_allow now name value ▸ hg
    cases hp : e.pass? ⟨now, random i⟩ r' with
    | none =>
      rw [(process_go_cons_of_none hp c rs).2] at hout
      cases hout
    | some p =>
      obtain ⟨c', henricher, hresult⟩ := process_go_cons_of_some hp c rs
      rw [hresult] at hout
      rw [henricher]
      obtain ⟨out', hout', rfl⟩ := Option.map_eq_some_iff.1 hout
      rcases List.mem_cons.1 hr with rfl | hr
      · -- What the guard has seen for this record it still remembers after the others.
        have hseen := remembers_output hp h hnow hv hne
        refine (hseen.process_go (fun g name value hg ↦ ?_) random (i + 1) c' rs).mono
          (fun _ hg ↦ hg.2)
        exact ⟨hwindow g name value hg.1, hg.2.allow hg.1 hnow name value⟩
      · have hnext := GuardedBy.after (t := ⟨now, random i⟩) h hwindow r'
        exact ih hnext hout' hr

end Enricher

/-- The guard has kept its rules and its limit for the attribute, and it has seen all these values
since then. -/
structure ValueGuard.Watches (g rules : ValueGuard) (name : String) (since : Instant)
    (values : Finset String) : Prop where
  rules : g.SameRules rules
  room : (g.seen name).size ≤ g.limitFor name
  remembered : ∀ v ∈ values, g.Remembers since name v

namespace ValueGuard.Watches

variable {g rules : ValueGuard} {name : String} {since now : Instant} {values : Finset String}

theorem card_le (h : g.Watches rules name since values) : values.card ≤ rules.limitFor name := by
  have hknown : values ⊆ (g.seen name).keySet := fun v hv ↦
    Dict.mem_keySet.2 (h.remembered v hv).contains
  calc values.card ≤ (g.seen name).keySet.card := Finset.card_le_card hknown
    _ = (g.seen name).size := Dict.card_keySet _
    _ ≤ g.limitFor name := h.room
    _ = rules.limitFor name := congrFun h.rules.2 name

theorem allow (h : g.Watches rules name since values)
    (hopened : values.Nonempty → since ≤ now ∧ Instant.OpensBy rules.window now since)
    (k value : String) : (g.allow now k value).guard.Watches rules name since values := by
  obtain ⟨hwindow, hlimit⟩ := g.sameRules_allow now k value
  refine ⟨⟨hwindow.trans h.rules.1, hlimit.trans h.rules.2⟩, ?_, fun v hv ↦ ?_⟩
  · rw [hlimit]
    exact size_seen_allow_le h.room now k value
  · obtain ⟨hnow, hopens⟩ := hopened ⟨v, hv⟩
    exact (h.remembered v hv).allow (h.rules.1 ▸ hopens) hnow k value

theorem sweep (h : g.Watches rules name since values)
    (hopened : values.Nonempty → since ≤ now ∧ Instant.OpensBy rules.window now since) {s : Sweep}
    (hs : g.sweep? now = some s) : s.guard.Watches rules name since values := by
  obtain ⟨hwindow, hlimit⟩ := (seen_sweep hs).1
  refine ⟨⟨hwindow.trans h.rules.1, hlimit.trans h.rules.2⟩, size_seen_sweep_le h.room hs,
    fun v hv ↦ ?_⟩
  exact (h.remembered v hv).sweep (h.rules.1 ▸ (hopened ⟨v, hv⟩).2) hs

end ValueGuard.Watches

namespace EnricherHistory

variable {h : EnricherHistory} {e : Enricher} {g rules : ValueGuard} {s : EnricherStep}
  {l l' : List EnricherStep} {name u : String} {a b : Instant}

def step (h : EnricherHistory) (s : EnricherStep) : EnricherHistory :=
  match s.call with
  | .process random batch =>
    let p := h.enricher.process h.counters s.clock random batch
    ⟨p.enricher, p.counters, h.emitted ++ (p.result.getD []).map (⟨s.clock, ·⟩)⟩
  | .sweep => { h with enricher := h.enricher.sweep s.clock }

def run (e : Enricher) (l : List EnricherStep) : EnricherHistory := l.foldl step { enricher := e }

/-- The values of the attribute, other than the overflow value, in the records that were put out
between two times. -/
def emittedValues (h : EnricherHistory) (name : String) (a b : Instant) : Finset String :=
  ((h.emitted.filter (fun m ↦ a ≤ m.time ∧ m.time ≤ b)).filterMap
    (·.record.attributes.get? name)).toFinset.erase overflowValue

theorem mem_emittedValues : u ∈ h.emittedValues name a b ↔ u ≠ overflowValue ∧
    ∃ m ∈ h.emitted, (a ≤ m.time ∧ m.time ≤ b) ∧ m.record.attributes.get? name = some u := by
  simp [emittedValues, List.mem_filterMap, and_assoc]

theorem mem_emitted_step {m : Emission} (hm : m ∈ (h.step s).emitted) :
    m ∈ h.emitted ∨ m.time = s.clock ∧ ∃ random batch out, s.call = .process random batch ∧
      (h.enricher.process h.counters s.clock random batch).result = some out ∧ m.record ∈ out := by
  unfold step at hm
  split at hm
  · rename_i random batch hcall
    rcases List.mem_append.1 hm with hm | hm
    · exact Or.inl hm
    · obtain ⟨r, hr, rfl⟩ := List.mem_map.1 hm
      cases hout : (h.enricher.process h.counters s.clock random batch).result with
      | none =>
        rw [hout] at hr
        cases hr
      | some out => exact Or.inr ⟨rfl, random, batch, out, hcall, hout, by simpa [hout] using hr⟩
  · exact Or.inl hm

theorem watches_step {values : Finset String}
    (hwatch : h.enricher.GuardedBy (·.Watches rules name a values) name)
    (hlive : values.Nonempty → a ≤ s.clock ∧ Instant.OpensBy rules.window s.clock a) :
    (h.step s).enricher.GuardedBy (·.Watches rules name a values) name := by
  unfold EnricherHistory.step
  split
  · rename_i random batch _
    exact hwatch.process_go (fun g k v hg ↦ hg.allow hlive k v) random 0 _ batch
  · obtain ⟨hbounded, hid, g, hg, hw⟩ := hwatch
    refine ⟨hbounded, hid, ((g.sweep? s.clock).map Sweep.guard).getD g,
      by simp only [Enricher.sweep, hg, Option.map_some], ?_⟩
    cases hs : g.sweep? s.clock with
    | none => exact hw
    | some w => exact hw.sweep hlive hs

theorem watches_emitted_step (hclock : ∀ m ∈ h.emitted, m.time ≤ s.clock)
    (hopened : a ≤ s.clock → Instant.OpensBy rules.window s.clock a)
    (hwatch : h.enricher.GuardedBy (·.Watches rules name a (h.emittedValues name a b)) name) :
    (h.step s).enricher.GuardedBy
      (·.Watches rules name a ((h.step s).emittedValues name a b)) name := by
  -- A window may open after the start of the interval as long as nothing was put out in it.
  have hlive (hvalues : (h.emittedValues name a b).Nonempty) :
      a ≤ s.clock ∧ Instant.OpensBy rules.window s.clock a := by
    obtain ⟨u, hu⟩ := hvalues
    obtain ⟨-, m, hm, ⟨ha, -⟩, -⟩ := mem_emittedValues.1 hu
    have hle := Instant.le_trans ha (hclock m hm)
    exact ⟨hle, hopened hle⟩
  obtain ⟨hbounded, hid, g, hg, hw⟩ := watches_step hwatch hlive
  refine ⟨hbounded, hid, g, hg, hw.rules, hw.room, fun v hv ↦ ?_⟩
  obtain ⟨hne, m, hm, hin, hattribute⟩ := mem_emittedValues.1 hv
  rcases mem_emitted_step hm with hold | ⟨htime, random, batch, out, hcall, hout, hmem⟩
  · exact hw.remembered v (mem_emittedValues.2 ⟨hne, m, hold, hin, hattribute⟩)
  · have hle : a ≤ s.clock := htime ▸ hin.1
    obtain ⟨-, -, g', hg', hseen⟩ := Enricher.remembers_of_mem_process_go
      (hwatch.mono (fun g' hg' ↦ hg'.rules.1 ▸ hopened hle)) hle hout hmem hattribute hne
    have hsame : (h.step s).enricher =
        (h.enricher.process h.counters s.clock random batch).enricher := by
      simp only [EnricherHistory.step, hcall]
    obtain rfl : g' = g := Option.some.inj (hg'.symm.trans (hsame ▸ hg))
    exact hseen

@[simp] theorem run_concat (e : Enricher) (l : List EnricherStep) (s : EnricherStep) :
    run e (l ++ [s]) = (run e l).step s := by simp [run]

theorem time_le_of_mem_emitted {m : Emission} (hl : ∀ s ∈ l, s.clock ≤ b)
    (hm : m ∈ (run e l).emitted) : m.time ≤ b := by
  induction l using List.reverseRecOn with
  | nil => cases hm
  | append_singleton l s ih =>
    rw [run_concat] at hm
    rcases mem_emitted_step hm with hold | ⟨htime, -⟩
    · exact ih (fun s' hs' ↦ hl s' (by simp [hs'])) hold
    · exact htime ▸ hl s (by simp)

/-- While no window opens after the start of the interval, the guard watches all values that are put
out in it. -/
theorem watches_emitted_run (hg : e.guard = some g) (hbounded : name ∈ e.values.bounded)
    (hid : name ≠ e.idAttribute) (hroom : (g.seen name).size ≤ g.limitFor name)
    (hclock : l.Pairwise (fun s s' ↦ s.clock ≤ s'.clock))
    (hopened : ∀ s ∈ l, a ≤ s.clock → Instant.OpensBy g.window s.clock a) :
    (run e l).enricher.GuardedBy (·.Watches g name a ((run e l).emittedValues name a b)) name := by
  induction l using List.reverseRecOn with
  | nil =>
    refine ⟨hbounded, hid, g, hg, ⟨rfl, rfl⟩, hroom, fun v hv ↦ ?_⟩
    simp [run, mem_emittedValues] at hv
  | append_singleton l s ih =>
    obtain ⟨hearlier, -, hlast⟩ := List.pairwise_append.1 hclock
    rw [run_concat]
    refine watches_emitted_step (fun m hm ↦ ?_) (hopened s (by simp))
      (ih hearlier (fun s' hs' ↦ hopened s' (by simp [hs'])))
    exact time_le_of_mem_emitted (fun s' hs' ↦ hlast s' hs' s (by simp)) hm

theorem emittedValues_step_of_lt (hs : ¬ s.clock ≤ b) :
    (h.step s).emittedValues name a b = h.emittedValues name a b := by
  have hsub : h.emitted ⊆ (h.step s).emitted := by
    unfold step
    split
    · exact List.subset_append_left _ _
    · exact List.Subset.refl _
  ext u
  rw [mem_emittedValues, mem_emittedValues]
  refine and_congr_right (fun _ ↦ ⟨fun ⟨m, hm, hin, hattribute⟩ ↦ ?_,
    fun ⟨m, hm, hin, hattribute⟩ ↦ ⟨m, hsub hm, hin, hattribute⟩⟩)
  rcases mem_emitted_step hm with hold | ⟨htime, -⟩
  · exact ⟨m, hold, hin, hattribute⟩
  · exact absurd (htime ▸ hin.2) hs

theorem emittedValues_run_filter (hclock : l.Pairwise (fun s s' ↦ s.clock ≤ s'.clock)) :
    (run e (l.filter (·.clock ≤ b))).emittedValues name a b = (run e l).emittedValues name a b := by
  induction l using List.reverseRecOn with
  | nil => rfl
  | append_singleton l s ih =>
    obtain ⟨hearlier, -, hlast⟩ := List.pairwise_append.1 hclock
    by_cases hs : s.clock ≤ b
    · have hall : (l ++ [s]).filter (·.clock ≤ b) = l ++ [s] := by
        refine List.filter_eq_self.2 (fun s' hs' ↦ ?_)
        rcases List.mem_append.1 hs' with hs' | hs'
        · exact decide_eq_true (Instant.le_trans (hlast s' hs' s (by simp)) hs)
        · rw [List.mem_singleton.1 hs']
          exact decide_eq_true hs
      rw [hall]
    · rw [List.filter_append, List.filter_cons_of_neg (by simpa using hs), List.filter_nil,
        List.append_nil, ih hearlier, run_concat, emittedValues_step_of_lt hs]

/-- Within an interval in which no window opens after its start no more values come out than the
limit. -/
theorem card_emittedValues_le_of_opensBy (hg : e.guard = some g)
    (hbounded : name ∈ e.values.bounded) (hid : name ≠ e.idAttribute)
    (hroom : (g.seen name).size ≤ g.limitFor name)
    (hclock : l.Pairwise (fun s s' ↦ s.clock ≤ s'.clock))
    (hopened : ∀ s ∈ l, a ≤ s.clock → s.clock ≤ b → Instant.OpensBy g.window s.clock a) :
    ((run e l).emittedValues name a b).card ≤ g.limitFor name := by
  have hwatch := watches_emitted_run (b := b) hg hbounded hid hroom
    (hclock.filter (·.clock ≤ b)) (fun s hs ha ↦ by
      obtain ⟨hs, hb⟩ := List.mem_filter.1 hs
      exact hopened s hs ha (of_decide_eq_true hb))
  obtain ⟨-, -, g', -, hw⟩ := hwatch
  rw [← emittedValues_run_filter hclock]
  exact hw.card_le

/-- Within an interval that is no longer than the window no more values of a bounded attribute come
out than its limit, whatever goes in, if the guard sets out with no more than that, as a fresh one
does. The clock shows times outside leap seconds, as clocks do that count from the start of 1970. -/
theorem card_emittedValues_le (hg : e.guard = some g) (hroom : (g.seen name).size ≤ g.limitFor name)
    (hbounded : name ∈ e.values.bounded) (hid : name ≠ e.idAttribute)
    (hclock : l.Pairwise (fun s s' ↦ s.clock ≤ s'.clock)) (hplain : ∀ s ∈ l, s.clock.IsPlain)
    (ha : a.IsPlain) (hb : b.IsPlain) (hlength : b.since a ≤ g.window) :
    ((run e l).emittedValues name a b).card ≤ g.limitFor name :=
  card_emittedValues_le_of_opensBy hg hbounded hid hroom hclock
    (fun s hs _ hle ↦ ha.opensBy hb (hplain s hs) hle hlength)

/-- A minute after one user was admitted, at the very end of the window, another is still refused,
through a sweep in between. -/
theorem card_emittedValues_le_at_window_edge :
    let login (user : String) : Record :=
      .log ⟨{ timestamp := ⟨0, 0⟩, service := "s", attributes := Dict.ofList [("user.id", user)] },
        .info, ""⟩
    let e : Enricher := .ofSettings {} { maxValues := 1, windowSecs := 60, bounded := ["user.id"] }
    let random : Nat → List UInt8 := fun _ ↦ [0, 1, 2, 3]
    let l : List EnricherStep := [⟨⟨0, 0⟩, .process random [login "u", login "v"]⟩,
      ⟨⟨30, 0⟩, .sweep⟩, ⟨⟨60, 0⟩, .process random [login "v", login "u"]⟩]
    (run e l).emitted.length = 4 ∧ "u" ∈ (run e l).emittedValues "user.id" ⟨0, 0⟩ ⟨60, 0⟩ ∧
      ((run e l).emittedValues "user.id" ⟨0, 0⟩ ⟨60, 0⟩).card ≤ 1 := by
  intro login e random l
  have hcard := @card_emittedValues_le e _ l "user.id" ⟨0, 0⟩ ⟨60, 0⟩ rfl (by decide +kernel)
    (by decide) (by decide) (by decide) (by decide) (by decide) (by decide) (by decide)
  exact ⟨by decide +kernel, by decide +kernel, hcard⟩

end EnricherHistory

end FlowCorrelation
