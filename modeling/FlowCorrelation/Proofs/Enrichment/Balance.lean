import FlowCorrelation.Proofs.Enrichment.Emission
import FlowCorrelation.Proofs.Enrichment.Outcome
import FlowCorrelation.Proofs.Enrichment.Stalling
import FlowCorrelation.Proofs.ValueGuard.Refusals

namespace FlowCorrelation

def overflow (names : List String) (a : Attributes) : Attributes :=
  names.foldl (fun a name ↦ a.insert name overflowValue) a

theorem get?_overflow (names : List String) (a : Attributes) (k : String) :
    (overflow names a).get? k = if k ∈ names then some overflowValue else a.get? k := by
  induction names generalizing a with
  | nil => rfl
  | cons name names ih =>
    have hrest : (overflow (name :: names) a).get? k =
        (overflow names (a.insert name overflowValue)).get? k := rfl
    rw [hrest, ih, Dict.get?_insert]
    by_cases hname : name = k
    · simp [hname]
    · simp [hname, Ne.symm hname]

namespace ValueGuard

variable {g : ValueGuard} {a : Attributes}

structure Replaces (g : ValueGuard) (a : Attributes) (b : Bounding) : Prop where
  refusals : b.guard.refusals = g.refusals + b.replaced.length
  distinct : b.replaced.Nodup
  present : ∀ name ∈ b.replaced, ∃ v, a.get? name = some v ∧ v ≠ overflowValue
  result : ∀ a', b.attributes = some a' → a' = overflow b.replaced a

theorem replaces_bound (g : ValueGuard) (now : Instant) (service : String) (names : List String)
    (a : Attributes) : g.Replaces a (g.bound now service names a) := by
  induction names generalizing g a with
  | nil => exact ⟨rfl, List.nodup_nil, by simp [bound], fun a' ha ↦ (Option.some.inj ha).symm⟩
  | cons name names ih =>
    rcases g.bound_cons_cases now service name names a with ⟨-, hall⟩ | ⟨v, hv, hne, -⟩
    · rw [hall]
      exact ih g a
    have hrefusals := g.refusals_allow now name v
    rcases hadmitted : (g.allow now name v).admitted with _ | _ | _
    · simp only [hadmitted, reduceCtorEq, if_false] at hrefusals
      simp only [bound, hv, hne, if_false, hadmitted]
      exact ⟨hrefusals, List.nodup_nil, by simp, by simp⟩
    · simp only [hadmitted, if_true] at hrefusals
      simp only [bound, hv, hne, if_false, hadmitted]
      obtain ⟨hcount, hdistinct, hpresent, hresult⟩ :=
        ih (g.allow now name v).guard (a.insert name overflowValue)
      refine ⟨?_, List.nodup_cons.2 ⟨fun hname ↦ ?_, hdistinct⟩, fun k hk ↦ ?_, hresult⟩
      · rw [hcount, hrefusals, List.length_cons]
        omega
      · -- The value that was put in is passed over from then on.
        obtain ⟨u, hu, hother⟩ := hpresent name hname
        rw [Dict.get?_insert_self] at hu
        exact hother (Option.some.inj hu).symm
      · rcases List.mem_cons.1 hk with rfl | hk
        · exact ⟨v, hv, hne⟩
        · obtain ⟨u, hu, hother⟩ := hpresent k hk
          by_cases hname : name = k
          · rw [hname, Dict.get?_insert_self] at hu
            exact absurd (Option.some.inj hu).symm hother
          · exact ⟨u, (a.get?_insert_of_ne hname overflowValue).symm.trans hu, hother⟩
    · simp only [hadmitted, Option.some.injEq, Bool.true_eq_false, if_false] at hrefusals
      simp only [bound, hv, hne, if_false, hadmitted]
      obtain ⟨hcount, hdistinct, hpresent, hresult⟩ := ih (g.allow now name v).guard a
      exact ⟨hcount.trans (congrArg (· + _) hrefusals), hdistinct, hpresent, hresult⟩

end ValueGuard

/-- A record in the hands of an enricher: its attributes as they come to the guard and as the guard
leaves them, and what is decided about its id. Where the guard has no answer, the attributes are
left with the values that were replaced until then, and nothing is decided. -/
structure Handling where
  before : Attributes
  after : Attributes
  outcome : Option Outcome

/-- The attributes whose value gave way to the overflow value. -/
def Handling.replaced (x : Handling) : Finset String :=
  x.before.keySet.filter (fun name ↦
    x.before.get? name ≠ some overflowValue ∧ x.after.get? name = some overflowValue)

namespace Enricher

variable {e : Enricher} {t : Moment} {r : Record}

/-- How many values the guard has refused, if there is one. -/
def refusals (e : Enricher) : Nat := (e.guard.map ValueGuard.refusals).getD 0

def handling (e : Enricher) (t : Moment) (r : Record) : Handling :=
  let prepared := e.normalize (e.dropAttributes r.attributes)
  { before := prepared
    after := (e.bounding t r).2.1.getD (overflow (e.bounding t r).2.2.1 prepared)
    outcome := (e.pass? t r).map Passage.outcome }

/-- The records of a batch that are taken in hand, up to the first to which the guard has no
answer. -/
def handlings (now : Instant) (random : Nat → List UInt8) :
    Nat → Enricher → List Record → List Handling
  | _, _, [] => []
  | i, e, r :: rs =>
    e.handling ⟨now, random i⟩ r ::
      if (e.pass? ⟨now, random i⟩ r).isSome then
        handlings now random (i + 1) (e.after ⟨now, random i⟩ r) rs
      else []

theorem replaced_handling_of_replaces {g : ValueGuard} {b : Bounding} {x : Handling}
    (h : g.Replaces x.before b) (hafter : x.after = overflow b.replaced x.before) :
    x.replaced = b.replaced.toFinset := by
  ext name
  simp only [Handling.replaced, Finset.mem_filter, Dict.mem_keySet, List.mem_toFinset, hafter,
    get?_overflow]
  constructor
  · rintro ⟨-, hother, hnow⟩
    by_contra hname
    rw [if_neg hname] at hnow
    exact hother hnow
  · intro hname
    obtain ⟨v, hv, hother⟩ := h.present name hname
    simpa [hname, hv] using hother

/-- The values that were replaced in the record are those that the enricher says it has replaced,
and those that the guard counts. -/
theorem card_replaced_handling (e : Enricher) (t : Moment) (r : Record) :
    (e.handling t r).replaced.card = (e.bounding t r).2.2.1.length ∧
      (e.after t r).refusals = e.refusals + (e.bounding t r).2.2.1.length := by
  cases hguard : e.guard with
  | none =>
    have hnone : (e.handling t r).replaced = ∅ := by
      apply Finset.filter_eq_empty_iff.2
      rintro name - ⟨hother, hnow⟩
      simp only [handling, (bounding_of_unguarded hguard t r).2, Option.getD_some] at hother hnow
      exact hother hnow
    simp [hnone, bounding, bound, refusals, after, hguard]
  | some g =>
    have hreplaces := g.replaces_bound t.now r.envelope.service e.values.bounded
      (e.normalize (e.dropAttributes r.attributes))
    have hsaid : (e.bounding t r).2.2.1 = (g.bound t.now r.envelope.service e.values.bounded
        (e.normalize (e.dropAttributes r.attributes))).replaced := by simp [bounding, bound, hguard]
    constructor
    · rw [hsaid, replaced_handling_of_replaces hreplaces, List.toFinset_card_of_nodup
        hreplaces.distinct]
      simp only [handling, hsaid, (bounding_of_guarded hguard t r).2]
      cases hresult : (g.bound t.now r.envelope.service e.values.bounded
        (e.normalize (e.dropAttributes r.attributes))).attributes with
      | none => rfl
      | some a => exact hreplaces.result a hresult
    · rw [hsaid, refusals, guard_after, hguard, refusals, hguard]
      exact hreplaces.refusals

end Enricher

namespace EnrichmentCounters

variable {c : EnrichmentCounters}

def decided (c : EnrichmentCounters) : Nat :=
  c.idsExisting + c.idsExtracted + c.idsDerived + c.idsGenerated + c.idsRejected

theorem foldl_recordRejection (names : List String) (c : EnrichmentCounters) :
    ∃ d : Dict Nat, d.total id = c.rejectionsByAttribute.total id + names.length ∧
      names.foldl recordRejection c =
        { c with guardRejections := c.guardRejections + names.length, rejectionsByAttribute := d } := by
  induction names generalizing c with
  | nil => exact ⟨c.rejectionsByAttribute, rfl, rfl⟩
  | cons name names ih =>
    obtain ⟨d, htotal, hfold⟩ := ih (c.recordRejection name)
    have hfirst : (c.recordRejection name).rejectionsByAttribute.total id =
        c.rejectionsByAttribute.total id + 1 := by
      have hinsert := Dict.total_insert id c.rejectionsByAttribute name
        ((c.rejectionsByAttribute.get? name).getD 0 + 1)
      simp only [Option.map_id, id_eq] at hinsert
      simp only [recordRejection, Dict.update]
      omega
    refine ⟨d, ?_, ?_⟩
    · rw [htotal, hfirst, List.length_cons]
      omega
    · rw [List.foldl_cons, hfold, List.length_cons, Nat.add_comm names.length, ← Nat.add_assoc]
      rfl

end EnrichmentCounters

theorem Resolution.provenance_of_sanitized {source : Provenance} {raw : String} {x : Resolution}
    (h : Resolution.ofCarried source raw = .ok x) (hx : x.sanitized) : x.provenance ≠ .existing := by
  unfold ofCarried at h
  cases ha : acceptId raw .outside with
  | error d => simp [ha, bind, Except.bind] at h
  | ok a =>
    simp only [ha, bind, Except.bind, pure, Except.pure, Except.ok.injEq] at h
    subst h
    have hrepaired : a.repaired.isSome := hx
    by_cases hsource : source = .existing <;> simp [hrepaired, hsource]

namespace Registrar

variable {g : Registrar} {o : Occasion} {r : Record} {x : Resolution}

theorem extracted_of_sanitized (h : g.resolve o r = .resolved x) (hx : x.sanitized) :
    x.provenance ∈ [Provenance.baggage, .header, .body] := by
  rcases resolve_cases h with hfirst | ⟨source, id, -, rfl⟩
  · obtain ⟨s, hs, ho⟩ := Resolution.exists_of_firstCarried_eq_some hfirst
    have hexisting := Resolution.provenance_of_sanitized ho hx
    obtain ⟨hderived, hgenerated⟩ := carried_ne_made hs
    rcases Resolution.provenance_of_ofCarried ho with hsource | hheader
    · rw [← hsource] at hderived hgenerated
      cases hp : x.provenance <;> simp_all
    · simp [hheader]
  · cases hx

end Registrar

namespace Enricher

variable {e : Enricher} {t : Moment} {r : Record} {c : EnrichmentCounters} {o : Outcome}
  {handled : List Handling}

theorem countOutcome_frame (e : Enricher) (c : EnrichmentCounters) (r : Record) (o : Outcome) :
    (e.countOutcome c r o).recordsProcessed = c.recordsProcessed ∧
      (e.countOutcome c r o).guardRejections = c.guardRejections ∧
      (e.countOutcome c r o).rejectionsByAttribute = c.rejectionsByAttribute := by
  cases o with
  | resolved x => cases hp : x.provenance <;> simp [countOutcome, count, hp]
  | rejected d => exact ⟨rfl, rfl, rfl⟩
  | unresolved => exact ⟨rfl, rfl, rfl⟩

theorem decided_countOutcome (e : Enricher) (c : EnrichmentCounters) (r : Record) (o : Outcome) :
    (e.countOutcome c r o).decided + (if o = .unresolved then 1 else 0) = c.decided + 1 := by
  cases o with
  | resolved x =>
    cases hp : x.provenance <;>
      simp only [countOutcome, count, hp, EnrichmentCounters.decided, reduceCtorEq, if_false] <;>
      omega
  | rejected d => rfl
  | unresolved => rfl

theorem sanitized_countOutcome (h : c.idsSanitized ≤ c.idsExtracted)
    (ho : ∀ x, o = .resolved x → x.sanitized → x.provenance ∈ [Provenance.baggage, .header, .body])
    (r : Record) : (e.countOutcome c r o).idsSanitized ≤ (e.countOutcome c r o).idsExtracted := by
  cases o with
  | resolved x =>
    by_cases hx : x.sanitized
    · have hp := ho x rfl hx
      simp only [List.mem_cons, List.not_mem_nil, or_false] at hp
      rcases hp with hp | hp | hp <;> simpa [countOutcome, count, hx, hp] using h
    · have hgrows : c.idsExtracted ≤ (e.countOutcome c r (.resolved x)).idsExtracted := by
        cases hp : x.provenance <;> simp [countOutcome, count, hp]
      have hsame : (e.countOutcome c r (.resolved x)).idsSanitized = c.idsSanitized := by
        cases hp : x.provenance <;> simp [countOutcome, count, hp, hx]
      exact hsame.trans_le (h.trans hgrows)
  | rejected d => exact h
  | unresolved => exact h

/-- A record is counted with what was replaced in it, and then with what is decided about it. -/
theorem enrich_counters (e : Enricher) (c : EnrichmentCounters) (t : Moment) (r : Record) :
    ∃ c' : EnrichmentCounters, c'.recordsProcessed = c.recordsProcessed + 1 ∧
      c'.decided = c.decided ∧ c'.idsSanitized = c.idsSanitized ∧ c'.idsExtracted = c.idsExtracted ∧
      c'.guardRejections = c.guardRejections + (e.bounding t r).2.2.1.length ∧
      c'.rejectionsByAttribute.total id =
        c.rejectionsByAttribute.total id + (e.bounding t r).2.2.1.length ∧
      (e.enrich c t r).counters =
        ((e.pass? t r).map (fun p ↦ e.countOutcome c' p.bounded p.outcome)).getD c' := by
  let begun : EnrichmentCounters :=
    { c with
      recordsProcessed := c.recordsProcessed + 1
      attributesDropped := c.attributesDropped +
        (r.attributes.size - (e.dropAttributes r.attributes).size) }
  obtain ⟨d, htotal, hfold⟩ :=
    EnrichmentCounters.foldl_recordRejection (e.bounding t r).2.2.1 begun
  refine ⟨{ begun with
      guardRejections := begun.guardRejections + (e.bounding t r).2.2.1.length
      rejectionsByAttribute := d }, rfl, rfl, rfl, rfl, rfl, htotal, ?_⟩
  rw [← hfold]
  unfold enrich pass? bounding
  dsimp only
  split
  · rename_i hb; simp only [hb, Option.map_none, Option.getD_none]; rfl
  · rename_i hb; simp only [hb, Option.map_some, Option.getD_some]; rfl

structure Balances (e : Enricher) (c : EnrichmentCounters) (handled : List Handling) : Prop where
  processed : c.recordsProcessed = handled.length
  decided : c.recordsProcessed = c.decided + handled.countP (·.outcome = some .unresolved) +
    handled.countP (·.outcome = none)
  sanitized : c.idsSanitized ≤ c.idsExtracted
  replaced : c.guardRejections = (handled.map (·.replaced.card)).sum
  byAttribute : c.rejectionsByAttribute.total id = c.guardRejections
  guard : e.refusals = c.guardRejections

theorem Balances.concat {e' : Enricher} {c' : EnrichmentCounters} {x : Handling}
    (h : e.Balances c handled) (hprocessed : c'.recordsProcessed = c.recordsProcessed + 1)
    (hdecided : c'.decided + (if x.outcome = some .unresolved then 1 else 0) +
      (if x.outcome = none then 1 else 0) = c.decided + 1)
    (hsanitized : c'.idsSanitized ≤ c'.idsExtracted)
    (hreplaced : c'.guardRejections = c.guardRejections + x.replaced.card)
    (htotal : c'.rejectionsByAttribute.total id =
      c.rejectionsByAttribute.total id + x.replaced.card)
    (hguard : e'.refusals = e.refusals + x.replaced.card) : e'.Balances c' (handled ++ [x]) := by
  have hlength := h.processed
  have houtcomes := h.decided
  have hsum := h.replaced
  have hattribute := h.byAttribute
  have hrefusals := h.guard
  refine ⟨?_, ?_, hsanitized, ?_, by omega, by omega⟩
  · rw [List.length_append, List.length_singleton]
    omega
  · simp only [List.countP_append, List.countP_singleton, decide_eq_true_eq]
    omega
  · rw [List.map_append, List.sum_append, List.map_singleton, List.sum_singleton]
    omega

theorem Balances.enrich (h : e.Balances c handled) (t : Moment) (r : Record) :
    (e.after t r).Balances (e.enrich c t r).counters (handled ++ [e.handling t r]) := by
  obtain ⟨c', hprocessed, hdecided, hsanitized, hextracted, hrejections, htotal, hcounters⟩ :=
    e.enrich_counters c t r
  obtain ⟨hcard, hrefusals⟩ := e.card_replaced_handling t r
  have hless : c'.idsSanitized ≤ c'.idsExtracted := by
    rw [hsanitized, hextracted]
    exact h.sanitized
  have houtcome : (e.handling t r).outcome = (e.pass? t r).map Passage.outcome := rfl
  rw [← hcard] at hrejections htotal hrefusals
  rw [hcounters]
  cases hp : e.pass? t r with
  | none =>
    rw [hp, Option.map_none] at houtcome
    exact h.concat hprocessed (by simp [houtcome, hdecided]) hless hrejections htotal hrefusals
  | some p =>
    rw [hp, Option.map_some] at houtcome
    rw [Option.map_some, Option.getD_some]
    obtain ⟨hsame, hsame', hsame''⟩ := e.countOutcome_frame c' p.bounded p.outcome
    obtain ⟨-, -, hresolve, -⟩ := pass?_spec hp
    refine h.concat (hsame.trans hprocessed) ?_ ?_ (hsame'.trans hrejections) ?_ hrefusals
    · rw [← hdecided, ← e.decided_countOutcome c' p.bounded p.outcome]
      simp [houtcome]
    · exact sanitized_countOutcome hless
        (fun x hx ↦ Registrar.extracted_of_sanitized (hresolve.symm.trans hx)) p.bounded
    · rw [hsame'']
      exact htotal

theorem Balances.process_go (h : e.Balances c handled) (now : Instant)
    (random : Nat → List UInt8) (i : Nat) (batch : List Record) :
    (process.go now random i e c batch).enricher.Balances
      (process.go now random i e c batch).counters
      (handled ++ handlings now random i e batch) := by
  induction batch generalizing i e c handled with
  | nil =>
    rw [handlings, List.append_nil]
    exact h
  | cons r rs ih =>
    have hfirst := e.enrich_result c ⟨now, random i⟩ r
    have hnext := h.enrich ⟨now, random i⟩ r
    simp only [process.go, handlings]
    cases hp : e.pass? ⟨now, random i⟩ r with
    | none =>
      rw [hp, Option.map_none] at hfirst
      simp only [hfirst, enrich_enricher, Option.isSome_none, Bool.false_eq_true, if_false]
      exact hnext
    | some p =>
      rw [hp, Option.map_some] at hfirst
      simp only [hfirst, enrich_enricher, Option.isSome_some, if_true]
      rw [List.append_cons]
      exact ih hnext (i + 1)

theorem Balances.sweep (h : e.Balances c handled) (now : Instant) :
    (e.sweep now).Balances c handled := by
  refine { h with guard := Eq.trans ?_ h.guard }
  cases hguard : e.guard with
  | none => simp only [refusals, Enricher.sweep, hguard, Option.map_none]
  | some g =>
    simp only [refusals, Enricher.sweep, hguard, Option.map_some, Option.getD_some]
    cases hs : g.sweep? now with
    | none => rfl
    | some s =>
      obtain ⟨opened, -, rfl⟩ := Option.map_eq_some_iff.1 hs
      rfl

/-- Whether the guard, if there is one, has an answer to every value at this time. -/
def Answers (e : Enricher) (now : Instant) : Prop :=
  ∀ g, e.guard = some g → (now.sub? g.window).isSome

theorem Answers.after {now : Instant} (h : e.Answers now) (t : Moment) (r : Record) :
    (e.after t r).Answers now := by
  intro g' hg'
  rw [guard_after] at hg'
  obtain ⟨g, hg, rfl⟩ := Option.map_eq_some_iff.1 hg'
  rw [(g.sameRules_bound _ _ _ _).1]
  exact h g hg

theorem Answers.sweep {now : Instant} (h : e.Answers now) (time : Instant) :
    (e.sweep time).Answers now := by
  intro g' hg'
  obtain ⟨g, hg, rfl⟩ := Option.map_eq_some_iff.1 hg'
  cases hs : g.sweep? time with
  | none => exact h g hg
  | some s =>
    rw [Option.map_some, Option.getD_some, (ValueGuard.seen_sweep hs).1.1]
    exact h g hg

theorem Answers.outcome_ne_none {now : Instant} {random : Nat → List UInt8} {i : Nat}
    {batch : List Record} (h : e.Answers now) :
    ∀ x ∈ handlings now random i e batch, x.outcome ≠ none := by
  induction batch generalizing i e with
  | nil => simp [handlings]
  | cons r rs ih =>
    cases hp : e.pass? ⟨now, random i⟩ r with
    | none =>
      obtain ⟨g, hg, hnone⟩ := sub?_eq_none_of_pass? hp
      have hsome : (now.sub? g.window).isSome := h g hg
      rw [hnone] at hsome
      cases hsome
    | some p =>
      intro x hx
      simp only [handlings, hp, Option.isSome_some, if_true] at hx
      rcases List.mem_cons.1 hx with rfl | hx
      · simp [handling, hp]
      · exact ih (h.after ⟨now, random i⟩ r) x hx

end Enricher

namespace EnricherHistory

variable {e : Enricher}

def takes (h : EnricherHistory) (s : EnricherStep) : List Handling :=
  match s.call with
  | .process random batch => Enricher.handlings s.clock random 0 h.enricher batch
  | .sweep => []

/-- All records that are taken in hand in a run. -/
def handled (e : Enricher) (l : List EnricherStep) : List Handling :=
  transcript step takes { enricher := e } l

theorem balances_run (hfresh : e.refusals = 0) (l : List EnricherStep) :
    (run e l).enricher.Balances (run e l).counters (handled e l) := by
  refine transcript_induction
    (P := fun (h : EnricherHistory) noted ↦ h.enricher.Balances h.counters noted) l
    ⟨rfl, rfl, Nat.le_refl 0, rfl, rfl, hfresh⟩ (fun h s _ noted hb ↦ ?_)
  obtain ⟨clock, ⟨random, batch⟩ | -⟩ := s
  · exact hb.process_go clock random 0 batch
  · simp only [takes, List.append_nil]
    exact hb.sweep clock

theorem outcome_ne_none_of_answers (l : List EnricherStep) (h : ∀ s ∈ l, e.Answers s.clock) :
    ∀ x ∈ handled e l, x.outcome ≠ none := by
  refine (transcript_induction
    (P := fun (h : EnricherHistory) (noted : List Handling) ↦
      (∀ s ∈ l, h.enricher.Answers s.clock) ∧ ∀ x ∈ noted, x.outcome ≠ none) l ⟨h, by simp⟩
    (fun h s hs noted ⟨hanswers, hnoted⟩ ↦ ?_)).2
  obtain ⟨clock, ⟨random, batch⟩ | -⟩ := s
  · refine ⟨fun s' hs' ↦ ?_, fun x hx ↦ ?_⟩
    · exact Enricher.process_go_induction (P := (·.Answers s'.clock))
        (fun e' bytes r he ↦ he.after ⟨clock, bytes⟩ r) (hanswers s' hs') random 0 _ batch
    · rcases List.mem_append.1 hx with hx | hx
      · exact hnoted x hx
      · exact (hanswers _ hs).outcome_ne_none x hx
  · refine ⟨fun s' hs' ↦ (hanswers s' hs').sweep clock, fun x hx ↦ ?_⟩
    simp only [takes, List.append_nil] at hx
    exact hnoted x hx

/-- The counters after a run that began with none, on a guard that had refused nothing: every record
that was taken in hand is counted; it is among those with an id of some source, with one that was
made and turned out to be none, with no id, or it is one to which the guard had no answer. So the
former alone make up all records exactly if the guard always had an answer, which it has as long as
its window stays within the calendar. Ids that had to be repaired are among those that were
extracted. The refusals counted in all, those counted by attribute, those that the guard counts and
the values that were replaced in the records are equally many. -/
theorem balance_of_run (hfresh : e.refusals = 0) (l : List EnricherStep) :
    let h := run e l
    let c := h.counters
    let inHand := handled e l
    let withOutcome := c.idsExisting + c.idsExtracted + c.idsDerived + c.idsGenerated +
      c.idsRejected + inHand.countP (·.outcome = some .unresolved)
    c.recordsProcessed = inHand.length ∧
      c.recordsProcessed = withOutcome + inHand.countP (·.outcome = none) ∧
      (c.recordsProcessed = withOutcome ↔ ∀ x ∈ inHand, x.outcome ≠ none) ∧
      ((∀ s ∈ l, e.Answers s.clock) → c.recordsProcessed = withOutcome) ∧
      c.idsSanitized ≤ c.idsExtracted ∧
      c.guardRejections = c.rejectionsByAttribute.values.sum ∧
      c.guardRejections = h.enricher.refusals ∧
      c.guardRejections = (inHand.map (·.replaced.card)).sum := by
  intro h c inHand withOutcome
  have hb : h.enricher.Balances c inHand := balances_run hfresh l
  have hsum : c.recordsProcessed = withOutcome + inHand.countP (·.outcome = none) := hb.decided
  have hiff : c.recordsProcessed = withOutcome ↔ ∀ x ∈ inHand, x.outcome ≠ none := by
    have hzero : inHand.countP (·.outcome = none) = 0 ↔ ∀ x ∈ inHand, x.outcome ≠ none := by
      simp [List.countP_eq_zero]
    rw [← hzero]
    omega
  have htotal := hb.byAttribute
  rw [Dict.total, List.map_id] at htotal
  exact ⟨hb.processed, hsum, hiff, fun hanswers ↦ hiff.2 (outcome_ne_none_of_answers l hanswers),
    hb.sanitized, htotal.symm, hb.guard.symm, hb.replaced⟩

section Users

open Enricher

/-- The second of two users is replaced, and the counters show it in all three places. -/
theorem balance_of_second_user :
    let l : List EnricherStep := [⟨⟨0, 0⟩, .process (fun _ ↦ [0, 1, 2, 3])
      [userLog "u", userLog "v"]⟩, ⟨⟨0, 0⟩, .sweep⟩]
    oneUser.refusals = 0 ∧ (run oneUser l).counters.recordsProcessed = 2 ∧
      (run oneUser l).counters.idsExisting = 2 ∧ (run oneUser l).enricher.refusals = 1 ∧
      (run oneUser l).counters.rejectionsByAttribute.values.sum = 1 ∧
      ((handled oneUser l).map (·.replaced.card)).sum = 1 := by
  intro l
  obtain ⟨hlength, -, -, -, -, hattribute, hguard, hreplaced⟩ :=
    balance_of_run (e := oneUser) rfl l
  have hrejections : (run oneUser l).counters.guardRejections = 1 := by decide +kernel
  refine ⟨rfl, ?_, by decide +kernel, hguard.symm.trans hrejections,
    hattribute.symm.trans hrejections, hreplaced.symm.trans hrejections⟩
  rw [hlength]
  decide +kernel

/-- At the beginning of the calendar the second user is counted as a record and nowhere else. -/
theorem not_balance_of_second_user_at_first_second :
    let l : List EnricherStep := [⟨⟨Instant.firstSecond, 0⟩, .process (fun _ ↦ [0, 1, 2, 3])
      [userLog "u", userLog "v"]⟩]
    let c := (run oneUser l).counters
    oneUser.refusals = 0 ∧ c.recordsProcessed = 2 ∧ c.idsExisting = 1 ∧
      c.recordsProcessed ≠ c.idsExisting + c.idsExtracted + c.idsDerived + c.idsGenerated +
        c.idsRejected + (handled oneUser l).countP (·.outcome = some .unresolved) := by
  intro l c
  exact ⟨rfl, by decide +kernel⟩

end Users

end EnricherHistory

end FlowCorrelation
