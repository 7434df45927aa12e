import FlowCorrelation.Enrichment.Enricher

namespace FlowCorrelation

/-- One record on its way through an enricher. -/
structure Passage where
  input : Record
  /-- The record with its attributes dropped, normalized and bounded, in which the id is looked
  for. -/
  bounded : Record
  outcome : Outcome
  output : Record

namespace Enricher

variable {e : Enricher} {t : Moment} {r : Record} {p : Passage}

def bounding (e : Enricher) (t : Moment) (r : Record) :
    Option ValueGuard × Option Attributes × List String × List Notice :=
  e.bound t r.envelope.service (e.normalize (e.dropAttributes r.attributes))

/-- The passage of a record, if the guard has an answer for its attributes. -/
def pass? (e : Enricher) (t : Moment) (r : Record) : Option Passage :=
  (e.bounding t r).2.1.map (fun a ↦
    let bounded := r.withAttributes a
    let outcome := e.registrar.resolve t.occasion bounded
    ⟨r, bounded, outcome, e.stamp bounded outcome⟩)

/-- The enricher after a record. -/
def after (e : Enricher) (t : Moment) (r : Record) : Enricher :=
  { e with guard := (e.bounding t r).1 }

/-- The passages of the records of a batch, the first of which stands at the place `i`. -/
def passages? (now : Instant) (random : Nat → List UInt8) :
    Nat → Enricher → List Record → Option (List Passage)
  | _, _, [] => some []
  | i, e, r :: rs =>
    match e.pass? ⟨now, random i⟩ r with
    | none => none
    | some p => (passages? now random (i + 1) (e.after ⟨now, random i⟩ r) rs).map (p :: ·)

theorem enrich_enricher (e : Enricher) (c : EnrichmentCounters) (t : Moment) (r : Record) :
    (e.enrich c t r).enricher = e.after t r := by
  unfold enrich after bounding
  dsimp only
  split <;> rfl

theorem enrich_result (e : Enricher) (c : EnrichmentCounters) (t : Moment) (r : Record) :
    (e.enrich c t r).result = (e.pass? t r).map Passage.output := by
  unfold enrich pass? bounding
  dsimp only
  split
  · rename_i hb; simp [hb]
  · rename_i hb; simp only [hb, Option.map_some]; rfl

section Batch

variable {now : Instant} {random : Nat → List UInt8} {i : Nat}

theorem process_go_cons_of_some (hp : e.pass? ⟨now, random i⟩ r = some p) (c : EnrichmentCounters)
    (rs : List Record) : ∃ c', (process.go now random i e c (r :: rs)).enricher =
        (process.go now random (i + 1) (e.after ⟨now, random i⟩ r) c' rs).enricher ∧
      (process.go now random i e c (r :: rs)).result =
        (process.go now random (i + 1) (e.after ⟨now, random i⟩ r) c' rs).result.map
          (p.output :: ·) := by
  have hfirst := e.enrich_result c ⟨now, random i⟩ r
  rw [hp, Option.map_some] at hfirst
  refine ⟨(e.enrich c ⟨now, random i⟩ r).counters, ?_⟩
  rw [process.go, hfirst, enrich_enricher]
  exact ⟨rfl, rfl⟩

theorem process_go_cons_of_none (hp : e.pass? ⟨now, random i⟩ r = none) (c : EnrichmentCounters)
    (rs : List Record) :
    (process.go now random i e c (r :: rs)).enricher = e.after ⟨now, random i⟩ r ∧
      (process.go now random i e c (r :: rs)).result = none := by
  have hfirst := e.enrich_result c ⟨now, random i⟩ r
  rw [hp, Option.map_none] at hfirst
  rw [process.go, hfirst, enrich_enricher]
  exact ⟨rfl, rfl⟩

/-- What no record changes, a batch does not change, whether it comes through or not. -/
theorem process_go_induction {P : Enricher → Prop}
    (hafter : ∀ (e : Enricher) random r, P e → P (e.after ⟨now, random⟩ r)) (h : P e)
    (random : Nat → List UInt8) (i : Nat) (c : EnrichmentCounters) (batch : List Record) :
    P (process.go now random i e c batch).enricher := by
  induction batch generalizing i e c with
  | nil => exact h
  | cons r rs ih =>
    have hnext := hafter e (random i) r h
    cases hp : e.pass? ⟨now, random i⟩ r with
    | none =>
      rw [(process_go_cons_of_none hp c rs).1]
      exact hnext
    | some p =>
      obtain ⟨c', henricher, -⟩ := process_go_cons_of_some hp c rs
      rw [henricher]
      exact ih hnext (i + 1) c'

end Batch

theorem process_go_result (now : Instant) (random : Nat → List UInt8) (i : Nat) (e : Enricher)
    (c : EnrichmentCounters) (batch : List Record) :
    (process.go now random i e c batch).result =
      (passages? now random i e batch).map (·.map Passage.output) := by
  induction batch generalizing i e c with
  | nil => rfl
  | cons r rs ih =>
    have hfirst := e.enrich_result c ⟨now, random i⟩ r
    simp only [process.go, passages?]
    cases hp : e.pass? ⟨now, random i⟩ r with
    | none =>
      rw [hp] at hfirst
      simp [hfirst]
    | some p =>
      rw [hp] at hfirst
      simp [hfirst, ih, enrich_enricher]
      rfl

theorem process_result (e : Enricher) (c : EnrichmentCounters) (now : Instant)
    (random : Nat → List UInt8) (batch : List Record) :
    (e.process c now random batch).result =
      (passages? now random 0 e batch).map (·.map Passage.output) :=
  process_go_result now random 0 e c batch

/-- A passage takes the record as it is, looks for the id in what bounding leaves of it, and writes
down what it finds. -/
theorem pass?_spec (h : e.pass? t r = some p) :
    p.input = r ∧ (∃ a, p.bounded = r.withAttributes a) ∧
      p.outcome = e.registrar.resolve t.occasion p.bounded ∧
      p.output = e.stamp p.bounded p.outcome := by
  obtain ⟨a, -, rfl⟩ := Option.map_eq_some_iff.1 h
  exact ⟨rfl, ⟨a, rfl⟩, rfl, rfl⟩

theorem isSome_guard_after (e : Enricher) (t : Moment) (r : Record) :
    (e.after t r).guard.isSome = e.guard.isSome := by
  cases hguard : e.guard <;> simp [after, bounding, bound, hguard]

theorem map_input_of_passages? {now : Instant} {random : Nat → List UInt8} {i : Nat}
    {l : List Passage} {batch : List Record} (h : passages? now random i e batch = some l) :
    l.map Passage.input = batch := by
  induction batch generalizing i e l with
  | nil =>
    obtain rfl : [] = l := Option.some.inj h
    rfl
  | cons r rs ih =>
    simp only [passages?] at h
    split at h
    · cases h
    · rename_i p hp
      obtain ⟨l', hl', rfl⟩ := Option.map_eq_some_iff.1 h
      rw [List.map_cons, ih hl', (pass?_spec hp).1]

/-- Every passage of a batch is one through the enricher with another guard. -/
theorem exists_guard_of_mem {now : Instant} {random : Nat → List UInt8} {i : Nat} {l : List Passage}
    {batch : List Record} (h : passages? now random i e batch = some l) (hp : p ∈ l) :
    ∃ (guard : Option ValueGuard) (t : Moment), guard.isSome = e.guard.isSome ∧
      { e with guard := guard }.pass? t p.input = some p := by
  induction batch generalizing i e l with
  | nil =>
    obtain rfl : [] = l := Option.some.inj h
    cases hp
  | cons r rs ih =>
    simp only [passages?] at h
    split at h
    · cases h
    · rename_i q hq
      obtain ⟨l', hl', rfl⟩ := Option.map_eq_some_iff.1 h
      rcases List.mem_cons.1 hp with rfl | hp
      · exact ⟨e.guard, _, rfl, (pass?_spec hq).1 ▸ hq⟩
      · obtain ⟨guard, t, hguard, hq'⟩ := ih hl' hp
        exact ⟨guard, t, hguard.trans (e.isSome_guard_after _ r), hq'⟩

theorem exists_pass?_of_mem {now : Instant} {random : Nat → List UInt8} {i : Nat} {l : List Passage}
    {batch : List Record} (h : passages? now random i e batch = some l) (hp : p ∈ l) :
    ∃ (e' : Enricher) (t : Moment), e'.registrar = e.registrar ∧ e'.pass? t p.input = some p := by
  obtain ⟨guard, t, -, hpass⟩ := exists_guard_of_mem h hp
  exact ⟨{ e with guard := guard }, t, rfl, hpass⟩

end Enricher

namespace Record

def withExemplar (r : Record) (link : Option Exemplar) : Record :=
  match r with
  | .metric m => .metric { m with exemplar := link }
  | r => r

theorem envelope_withExemplar (r : Record) (link : Option Exemplar) :
    (r.withExemplar link).envelope = r.envelope := by cases r <;> rfl

theorem kind_withExemplar (r : Record) (link : Option Exemplar) :
    (r.withExemplar link).kind = r.kind := by cases r <;> rfl

theorem withEnvelope_withEnvelope (r : Record) (v w : Envelope) :
    (r.withEnvelope v).withEnvelope w = r.withEnvelope w := by cases r <;> rfl

theorem withExemplar_withExemplar (r : Record) (link link' : Option Exemplar) :
    (r.withExemplar link).withExemplar link' = r.withExemplar link' := by cases r <;> rfl

theorem withExemplar_withEnvelope (r : Record) (v : Envelope) (link : Option Exemplar) :
    (r.withEnvelope v).withExemplar link = (r.withExemplar link).withEnvelope v := by
  cases r <;> rfl

theorem withExemplar_exemplar (r : Record) : r.withExemplar r.exemplar = r := by cases r <;> rfl

end Record

namespace Enricher

variable (e : Enricher) (x : Resolution) (r : Record)

/-- The link that a record has once the id is written into it. -/
def linkWith (name : String) (id : FlowId) : Record → Option Exemplar
  | .metric m => (linkExemplar name id m).exemplar
  | _ => none

theorem write_eq : e.write x r = (r.withEnvelope { r.envelope with
    attributes := if x.provenance = .existing then r.attributes
      else r.attributes.insert e.idAttribute x.id.text
    resource := if e.registrar.settings.toResource then r.resource.insert e.idAttribute x.id.text
      else r.resource }).withExemplar (linkWith e.idAttribute x.id r) := by
  by_cases hx : x.provenance = .existing <;>
    by_cases hr : e.registrar.settings.toResource = true <;>
      simp only [write, hx, hr, if_true, if_false] <;> cases r <;> rfl

theorem envelope_write : (e.write x r).envelope = { r.envelope with
    attributes := if x.provenance = .existing then r.attributes
      else r.attributes.insert e.idAttribute x.id.text
    resource := if e.registrar.settings.toResource then r.resource.insert e.idAttribute x.id.text
      else r.resource } := by
  rw [write_eq, Record.envelope_withExemplar, Record.envelope_withEnvelope]

theorem attributes_write : (e.write x r).attributes =
    if x.provenance = .existing then r.attributes
      else r.attributes.insert e.idAttribute x.id.text :=
  congrArg Envelope.attributes (e.envelope_write x r)

theorem resource_write : (e.write x r).resource =
    if e.registrar.settings.toResource then r.resource.insert e.idAttribute x.id.text
      else r.resource :=
  congrArg Envelope.resource (e.envelope_write x r)

theorem get?_stamp_of_ne {k : String} (hk : e.idAttribute ≠ k) (outcome : Outcome) :
    (e.stamp r outcome).attributes.get? k = r.attributes.get? k := by
  cases outcome with
  | resolved x =>
    rw [stamp, attributes_write]
    split
    · rfl
    · exact Dict.get?_insert_of_ne _ hk _
  | rejected d => rfl
  | unresolved => rfl

theorem kind_stamp (outcome : Outcome) : (e.stamp r outcome).kind = r.kind := by
  cases outcome with
  | resolved x => rw [stamp, write_eq, Record.kind_withExemplar, Record.kind_withEnvelope]
  | rejected d => rfl
  | unresolved => rfl

theorem kind_output {e : Enricher} {t : Moment} {r : Record} {p : Passage}
    (hp : e.pass? t r = some p) : p.output.kind = r.kind := by
  obtain ⟨-, ⟨a, ha⟩, -, houtput⟩ := pass?_spec hp
  rw [houtput, kind_stamp, ha, Record.withAttributes, Record.kind_withEnvelope]

end Enricher

end FlowCorrelation
