import FlowCorrelation.Proofs.Enrichment.Outcome
import FlowCorrelation.Proofs.Enrichment.Passage
import FlowCorrelation.Proofs.FlowId.Stamp
import FlowCorrelation.Proofs.FlowStore.Retrieval
import FlowCorrelation.Settings.Check

namespace FlowCorrelation

/-- A batch that an enricher takes. The enricher may be in any state, and a replica whose clock
moves on while it works is one that takes many batches. -/
structure BatchRun where
  enricher : Enricher
  counters : EnrichmentCounters := {}
  now : Instant
  random : Nat → List UInt8 := fun _ ↦ []
  batch : List Record

namespace BatchRun

variable (b : BatchRun)

/-- The enriched records, if the guard has an answer for all of them. -/
def output : List Record :=
  (b.enricher.process b.counters b.now b.random b.batch).result.getD []

def passages : List Passage := (Enricher.passages? b.now b.random 0 b.enricher b.batch).getD []

theorem output_eq : b.output = b.passages.map Passage.output := by
  unfold output passages
  rw [Enricher.process_result]
  cases Enricher.passages? b.now b.random 0 b.enricher b.batch <;> rfl

theorem flatMap_output (runs : List BatchRun) :
    runs.flatMap output = (runs.flatMap passages).map Passage.output := by
  rw [List.map_flatMap, funext output_eq]

theorem exists_pass?_of_mem_passages {p : Passage} (hp : p ∈ b.passages) :
    ∃ (e : Enricher) (t : Moment), e.registrar = b.enricher.registrar ∧ e.pass? t p.input = some p := by
  unfold passages at hp
  cases hl : Enricher.passages? b.now b.random 0 b.enricher b.batch with
  | none => simp [hl] at hp
  | some l => exact Enricher.exists_pass?_of_mem hl (by simpa [hl] using hp)

end BatchRun

/-- The id that was derived for a record of the trace. -/
def Passage.derivedId? (traceId : String) (p : Passage) : Option FlowId :=
  match p.outcome with
  | .resolved x =>
    if x.provenance = .derived ∧ Registrar.traceOf p.input = some traceId then some x.id else none
  | _ => none

namespace Registrar

def traceKey (g : Registrar) (traceId : String) : String :=
  g.settings.head ++ "-" ++ Digest.hex ((g.digest traceId).take 4)

theorem identity_of_derive {g : Registrar} {millis : Nat} {traceId : String} {id : FlowId}
    (hhead : isIdHead g.settings.head) (hdigest : 4 ≤ (g.digest traceId).length)
    (h : g.derive millis traceId = .ok id) : id.identity g.settings.head = g.traceKey traceId := by
  have hne : g.settings.head ≠ "" := fun hempty ↦ by simp [isIdHead, idDefect?, hempty] at hhead
  exact FlowId.identity_of_compose hne (Digest.isSuffix_hex_take hdigest) h

theorem traceOf_withAttributes (r : Record) (a : Attributes) :
    traceOf (r.withAttributes a) = traceOf r := by
  simp [traceOf, Record.withAttributes]

end Registrar

section Derived

variable {e : Enricher} {t : Moment} {r : Record} {p : Passage} {traceId : String} {id : FlowId}

theorem Enricher.derive_of_pass? (hp : e.pass? t r = some p) (hid : p.derivedId? traceId = some id) :
    (∃ millis, e.registrar.derive millis traceId = .ok id) ∧
      p.output.attributes.get? e.idAttribute = some id.text := by
  obtain ⟨rfl, ⟨a, hbounded⟩, houtcome, houtput⟩ := pass?_spec hp
  unfold Passage.derivedId? at hid
  split at hid
  · rename_i x hx
    split at hid
    · rename_i hcond
      obtain ⟨hprovenance, htrace⟩ := hcond
      obtain rfl : x.id = id := Option.some.inj hid
      obtain ⟨t', -, htrace', hderive⟩ :=
        Registrar.derive_of_derived (houtcome.symm.trans hx) hprovenance
      rw [hbounded, Registrar.traceOf_withAttributes, htrace] at htrace'
      obtain rfl : traceId = t' := Option.some.inj htrace'
      refine ⟨⟨_, hderive⟩, ?_⟩
      rw [houtput, hx, stamp, attributes_write, if_neg (by simp [hprovenance])]
      exact Dict.get?_insert_self _ _ _
    · cases hid
  · cases hid

end Derived

/-- Whatever replicas enrich, the ids that they derive from one trace have one key, and in a store
that has been given all that came out, in any order and among any other records, each of these ids
fetches all the records of the kind that got one of them. -/
theorem derived_ids_converge {g : Registrar} {traceId : String} {runs : List BatchRun}
    {ps : List Passage} (hhead : isIdHead g.settings.head) (hdigest : ∀ t, 4 ≤ (g.digest t).length)
    (hshared : ∀ b ∈ runs, b.enricher.registrar = g)
    (hps : ps.Subperm (runs.flatMap BatchRun.passages))
    (hderived : ∀ p ∈ ps, (p.derivedId? traceId).isSome) :
    ∃ key, ∀ p ∈ ps, ∃ id, p.derivedId? traceId = some id ∧ id.identity g.settings.head = key ∧
      ∀ s : FlowStore, s.attributeName = g.settings.attributeName → s.head = g.settings.head →
        ∀ added, (runs.flatMap BatchRun.output).Subperm added → ∀ kind,
          ((ps.map Passage.output).filter (·.kind = kind)).Subperm
            ((s.insertAll added).recordsOf kind id) := by
  -- The key is that of the trace, and it is also the key under which every output goes.
  have hstamped : ∀ p ∈ ps, ∃ id, p.derivedId? traceId = some id ∧
      id.identity g.settings.head = g.traceKey traceId ∧
      p.output.attributes.get? g.settings.attributeName = some id.text := by
    intro p hp
    obtain ⟨b, hb, hpb⟩ := List.mem_flatMap.1 (hps.subset hp)
    obtain ⟨e, t, he, hpass⟩ := b.exists_pass?_of_mem_passages hpb
    obtain ⟨id, hid⟩ := Option.isSome_iff_exists.1 (hderived p hp)
    obtain ⟨⟨millis, hderive⟩, hattribute⟩ := Enricher.derive_of_pass? hpass hid
    rw [Enricher.idAttribute, he, hshared b hb] at hattribute
    rw [he, hshared b hb] at hderive
    exact ⟨id, hid, Registrar.identity_of_derive hhead (hdigest traceId) hderive, hattribute⟩
  refine ⟨g.traceKey traceId, fun p hp ↦ ?_⟩
  obtain ⟨id, hid, hkey, -⟩ := hstamped p hp
  refine ⟨id, hid, hkey, fun s hname hsame added hadded kind ↦ ?_⟩
  have houtputs : (ps.map Passage.output).Subperm (runs.flatMap BatchRun.output) := by
    obtain ⟨l, hl, hsub⟩ := hps
    rw [BatchRun.flatMap_output]
    exact ⟨l.map Passage.output, hl.map _, hsub.map _⟩
  refine FlowStore.subperm_recordsOf_insertAll (houtputs.trans hadded) (fun r hr ↦ ?_)
  obtain ⟨q, hq, rfl⟩ := List.mem_map.1 hr
  obtain ⟨id', -, hkey', hattribute'⟩ := hstamped q hq
  rw [FlowStore.keyOf_of_attribute (hname ▸ hattribute'), hsame, hkey, ← hkey']
  rfl

/-- Two replicas an hour apart, one of which bounds the id attribute, stamp a span and the exemplar
of a metric point under a head with a dash. -/
theorem derived_ids_converge_hour_apart :
    let g : Registrar := { settings := { head := "my-shop" }, digest := fun _ ↦ [10, 11, 12, 13] }
    let span : SpanRecord := ⟨{ timestamp := ⟨0, 0⟩, service := "a", traceId := some "t" }, none, "n",
      0, .unset, none⟩
    let point : MetricPoint := ⟨{ timestamp := ⟨0, 0⟩, service := "b" }, "m", 1, none, none,
      some ⟨"t", "s", ∅⟩⟩
    let refusing : ValueGuard := { defaultLimit := 0, window := 0 }
    let first : BatchRun :=
      { enricher := ⟨g, {}, none⟩, now := ⟨1767225600, 0⟩, batch := [.span span] }
    let second : BatchRun :=
      { enricher := ⟨g, { bounded := ["correlation_id"] }, some refusing⟩
        now := ⟨1767229200, 0⟩
        batch := [.metric point] }
    let ps := [first, second].flatMap BatchRun.passages
    let s : FlowStore := { head := "my-shop" }
    isIdHead g.settings.head ∧ (∀ t, 4 ≤ (g.digest t).length) ∧
      (∀ b ∈ [first, second], b.enricher.registrar = g) ∧
      (∀ p ∈ ps, (p.derivedId? "t").isSome) ∧
      (ps.map (fun p ↦ (p.derivedId? "t").map FlowId.text)) =
        [some "my-shop-mjuohs00-0a0b0c0d", some "my-shop-mjuqmxs0-0a0b0c0d"] ∧
      ∃ key, ∀ p ∈ ps, ∃ id, p.derivedId? "t" = some id ∧ id.identity "my-shop" = key ∧
        ∀ kind, ((ps.map Passage.output).filter (·.kind = kind)).Subperm
          ((s.insertAll ([first, second].flatMap BatchRun.output).reverse).recordsOf kind id) := by
  intro g span point refusing first second ps s
  have hderived : ∀ p ∈ ps, (p.derivedId? "t").isSome := by decide +kernel
  refine ⟨by decide, fun _ ↦ by simp [g], by simp [first, second], hderived, by decide +kernel, ?_⟩
  obtain ⟨key, hkey⟩ := @derived_ids_converge g "t" [first, second] ps (by decide)
    (fun _ ↦ by simp [g]) (by simp [first, second]) (List.Subperm.refl ps) hderived
  refine ⟨key, fun p hp ↦ ?_⟩
  obtain ⟨id, hid, hidentity, hfetched⟩ := hkey p hp
  exact ⟨id, hid, hidentity, hfetched s rfl rfl _ (List.reverse_perm _).symm.subperm⟩

end FlowCorrelation
