import FlowCorrelation.Cause.Investigation
import FlowCorrelation.Proofs.Cause.Support

namespace FlowCorrelation

variable {i : Investigator} {c : FlowContext} {x : Investigation} {t : String}

namespace Finding

/-- The finding as it is before it is told. -/
def withoutNarrative : Finding → Finding
  | .conclusive r => .conclusive { r with narrative := none }
  | .inconclusive reason nearest confidence => .inconclusive reason nearest confidence

def narrative? : Finding → Option String
  | .conclusive r => r.narrative
  | .inconclusive .. => none

theorem withoutNarrative_ofVerdict (flow : String) (threshold : Float) (v : Verdict Float) :
    (ofVerdict flow threshold v).withoutNarrative = ofVerdict flow threshold v := by
  cases v <;> rfl

end Finding

theorem Narration.text?_within_eq_some_iff {n : Narration} {timeoutMs : Nat} :
    (n.within timeoutMs).text? = some t ↔ ∃ ms ≤ timeoutMs, n = .answered ms (.ok t) := by
  cases n with
  | silent => simp [within, NarratorOutcome.text?]
  | answered afterMs text =>
    by_cases hms : afterMs ≤ timeoutMs
    · cases text <;> simp [within, hms, NarratorOutcome.text?, eq_comm]
    · simp only [within, hms, if_false, NarratorOutcome.text?, Narration.answered.injEq]
      exact ⟨nofun, fun ⟨ms, hle, heq, _⟩ ↦ absurd (heq ▸ hle) hms⟩

namespace Investigator

theorem withoutNarrative_narrate (narration : Option NarratorOutcome) (f : Finding) :
    (narrate narration f).withoutNarrative = f.withoutNarrative := by
  cases f <;> rfl

theorem isConclusive_narrate (narration : Option NarratorOutcome) (f : Finding) :
    (narrate narration f).isConclusive = f.isConclusive := by
  cases f <;> rfl

/-- A run makes the finding of the analysis, asks about it if it is a report, and tells it. -/
theorem run?_cases (h : i.run? c = some x) : ∃ f, Finding.ofContext? c i.cause i.anomaly = some f ∧
    f.withoutNarrative = f ∧ x.narration = f.report?.bind i.ask ∧
      x.finding = narrate x.narration f := by
  obtain ⟨v, hv, rfl⟩ := Option.map_eq_some_iff.1 h
  exact ⟨_, Option.map_eq_some_iff.2 ⟨v, hv, rfl⟩, Finding.withoutNarrative_ofVerdict .., rfl, rfl⟩

theorem finding_run? (i : Investigator) (c : FlowContext) :
    (i.run? c).map (·.finding.withoutNarrative) = Finding.ofContext? c i.cause i.anomaly := by
  rw [run?, Finding.ofContext?, Option.map_map]
  refine Option.map_congr (fun v _ ↦ ?_)
  rw [Function.comp_apply, withoutNarrative_narrate, Finding.withoutNarrative_ofVerdict]

theorem run?_eq_none_iff : i.run? c = none ↔
    ¬ (ServiceGraph.ofContext c).isEmpty ∧ ∃ x ∈ c.signals.spans, x.endTime? = none := by
  have hfinding : Finding.ofContext? c i.cause i.anomaly = none ↔ _ := Finding.ofContext?_eq_none_iff
  rw [← hfinding, ← finding_run?, Option.map_eq_none_iff]

theorem narrative?_eq_some_iff (h : i.run? c = some x) : x.finding.narrative? = some t ↔
    ∃ r n ms, x.finding.withoutNarrative = .conclusive r ∧ i.narrator = some n ∧
      n.explain r = .answered ms (.ok t) ∧ ms ≤ i.timeoutMs := by
  obtain ⟨f, -, hself, hnarration, hfinding⟩ := run?_cases h
  rw [hfinding, withoutNarrative_narrate, hself, hnarration]
  cases f with
  | inconclusive reason nearest confidence => simp [narrate, Finding.narrative?]
  | conclusive r =>
    have htold : (i.ask r).bind NarratorOutcome.text? = some t ↔
        ∃ n ms, i.narrator = some n ∧ n.explain r = .answered ms (.ok t) ∧ ms ≤ i.timeoutMs := by
      rw [ask]
      cases i.narrator with
      | none => simp
      | some n =>
        simp only [Option.map_some, Option.bind_some, Narration.text?_within_eq_some_iff]
        grind
    simp only [narrate, Finding.narrative?, Finding.report?, Option.bind_some, htold,
      Finding.conclusive.injEq]
    grind

theorem run?_of_inconclusive (h : i.run? c = some x) (hx : x.finding.isConclusive = false) :
    x.narration = none ∧ ∀ narrator timeoutMs,
      { i with narrator := narrator, timeoutMs := timeoutMs : Investigator }.run? c = some x := by
  obtain ⟨v, hv, rfl⟩ := Option.map_eq_some_iff.1 h
  dsimp only at hx ⊢
  rw [isConclusive_narrate] at hx
  cases hf : Finding.ofVerdict c.id i.cause.threshold v with
  | conclusive r =>
    rw [hf] at hx
    cases hx
  | inconclusive reason nearest confidence =>
    refine ⟨rfl, fun narrator timeoutMs ↦ ?_⟩
    simp [run?, hv, hf, Finding.report?, notices]

end Investigator

namespace AnalysisCounters

variable {k k' : AnalysisCounters} {l : List (Investigator × FlowContext)}

/-- The counters after some runs, in each of which the narrator may be another one; nothing where a
run has no result. -/
def after? (k : AnalysisCounters) : List (Investigator × FlowContext) → Option AnalysisCounters
  | [] => some k
  | (i, c) :: l => (i.run? c).bind (fun x ↦ (k.record x).after? l)

/-- What a run adds to the counters: itself, once by its finding and once by what became of the
narrator, if there was one to ask. -/
theorem record_spec (h : i.run? c = some x) (k : AnalysisCounters) :
    (k.record x).runs = k.runs + 1 ∧
    (k.record x).conclusive + (k.record x).inconclusive = k.conclusive + k.inconclusive + 1 ∧
    (i.narrator.isSome → (k.record x).narratorSuccess + (k.record x).narratorFailures + k.conclusive =
      k.narratorSuccess + k.narratorFailures + (k.record x).conclusive) := by
  obtain ⟨f, -, -, hnarration, hfinding⟩ := Investigator.run?_cases h
  have hconclusive : x.finding.isConclusive = f.isConclusive := by
    rw [hfinding, Investigator.isConclusive_narrate]
  refine ⟨rfl, ?_, fun hnarrator ↦ ?_⟩
  · simp only [record]
    split <;> omega
  · obtain ⟨n, hn⟩ := Option.isSome_iff_exists.1 hnarrator
    cases f with
    | inconclusive reason nearest confidence =>
      have hnone : x.narration = none := hnarration
      have hx : x.finding.isConclusive = false := hconclusive
      simp [record, hnone, hx]
    | conclusive r =>
      have hasked : x.narration = some ((n.explain r).within i.timeoutMs) := by
        rw [hnarration, Finding.report?, Option.bind_some, Investigator.ask, hn, Option.map_some]
      have hx : x.finding.isConclusive := hconclusive
      simp only [record, hasked, hx, if_true, Option.bind_some, Option.any_some]
      cases ((n.explain r).within i.timeoutMs).text? <;> simp <;> omega

theorem after?_spec (h : k.after? l = some k') : k'.runs = k.runs + l.length ∧
    k'.conclusive + k'.inconclusive = k.conclusive + k.inconclusive + l.length ∧
    ((∀ y ∈ l, y.1.narrator.isSome) → k'.narratorSuccess + k'.narratorFailures + k.conclusive =
      k.narratorSuccess + k.narratorFailures + k'.conclusive) := by
  induction l generalizing k with
  | nil =>
    obtain rfl := Option.some.inj h
    simp
  | cons y l ih =>
    obtain ⟨i, c⟩ := y
    obtain ⟨x, hx, hrest⟩ := Option.bind_eq_some_iff.1 h
    obtain ⟨hruns, hfindings, hnarrators⟩ := record_spec hx k
    obtain ⟨hruns', hfindings', hnarrators'⟩ := ih hrest
    rw [List.length_cons]
    refine ⟨by omega, by omega, fun hall ↦ ?_⟩
    obtain ⟨hfirst, hothers⟩ := List.forall_mem_cons.1 hall
    have hstep := hnarrators hfirst
    have hrun := hnarrators' hothers
    omega

theorem after?_eq_none_iff : k.after? l = none ↔ ∃ y ∈ l, y.1.run? y.2 = none := by
  induction l generalizing k with
  | nil => simp [after?]
  | cons y l ih =>
    obtain ⟨i, c⟩ := y
    rw [after?, List.exists_mem_cons_iff]
    cases i.run? c with
    | none => simp
    | some x => simpa using ih

end AnalysisCounters

/-- Whoever narrates, and within whatever time, the finding is that of the analysis but for the
narrative. The narrative is what the narrator has answered in time about the report; where there is
no report, the run is the same without a narrator. All contexts that can be put together from
records are investigated, and of any runs one after another, each with its own narrator, every one is
counted as conclusive or not, and every conclusive one as told or not if all have a narrator. -/
theorem narrator_decides_nothing (i : Investigator) (c : FlowContext) :
    (∀ narrator timeoutMs,
      ({ i with narrator := narrator, timeoutMs := timeoutMs : Investigator }.run? c).map
        (·.finding.withoutNarrative) = Finding.ofContext? c i.cause i.anomaly) ∧
    (i.run? c = none → ∀ id settings now, FlowContext.assemble? id c.signals settings now = none) ∧
    (∀ x, i.run? c = some x →
      (∀ t, x.finding.narrative? = some t ↔
        ∃ r n ms, x.finding.withoutNarrative = .conclusive r ∧ i.narrator = some n ∧
          n.explain r = .answered ms (.ok t) ∧ ms ≤ i.timeoutMs) ∧
      (x.finding.isConclusive = false → x.narration = none ∧ ∀ narrator timeoutMs,
        { i with narrator := narrator, timeoutMs := timeoutMs : Investigator }.run? c = some x)) ∧
    ∀ l : List (Investigator × FlowContext),
      (∃ y ∈ l, ∀ id settings now, FlowContext.assemble? id y.2.signals settings now = none) ∨
      ∃ k, AnalysisCounters.after? {} l = some k ∧ k.runs = l.length ∧
        k.runs = k.conclusive + k.inconclusive ∧
        ((∀ y ∈ l, y.1.narrator.isSome) →
          k.narratorSuccess + k.narratorFailures = k.conclusive) := by
  have hassemble {i : Investigator} {c : FlowContext} (hnone : i.run? c = none)
      (id : String) (settings : AnomalySettings) (now : Instant) :
      FlowContext.assemble? id c.signals settings now = none :=
    FlowContext.assemble?_eq_none_iff.2 (Investigator.run?_eq_none_iff.1 hnone).2
  refine ⟨fun narrator timeoutMs ↦ Investigator.finding_run? _ c, hassemble,
    fun x hx ↦ ⟨fun t ↦ Investigator.narrative?_eq_some_iff hx, Investigator.run?_of_inconclusive hx⟩,
    fun l ↦ ?_⟩
  cases hk : AnalysisCounters.after? {} l with
  | none =>
    obtain ⟨y, hy, hnone⟩ := AnalysisCounters.after?_eq_none_iff.1 hk
    exact Or.inl ⟨y, hy, hassemble hnone⟩
  | some k =>
    obtain ⟨hruns, hfindings, hnarrators⟩ := AnalysisCounters.after?_spec hk
    have hzero : ({} : AnalysisCounters).runs = 0 := rfl
    refine Or.inr ⟨k, rfl, by simpa using hruns, by simp at hruns hfindings; omega, fun hall ↦ ?_⟩
    simpa using hnarrators hall

end FlowCorrelation
