import FlowCorrelation.Proofs.Enrichment.Frame

namespace FlowCorrelation

namespace Record

/-- The attributes of the link, none if there is no link. -/
def linkAttributes (r : Record) : Attributes :=
  r.exemplar.elim ∅ Exemplar.filteredAttributes

def maps (r : Record) : List Attributes := [r.attributes, r.resource, r.linkAttributes]

end Record

/-- Whether no map of the record has a name that the enricher drops. -/
def Enricher.Clears (e : Enricher) (r : Record) : Prop :=
  ∀ a ∈ r.maps, ∀ name, e.drops name → ¬ a.contains name

namespace Passage.IsConfined

variable {e : Enricher} {p : Passage} {name : String}

theorem get?_attributes_of_drops (h : p.IsConfined e) (hid : e.drops e.idAttribute = false)
    (hname : e.drops name) : p.output.attributes.get? name = none := by
  have hunwritten : ¬ p.Writes e name := by
    rintro ⟨rfl, -⟩
    exact absurd hname (by simp [hid])
  have habsent : ¬ (p.output.attributes.get? name).isSome := by
    rw [h.present name hunwritten]
    exact fun hpresent ↦ hpresent.2 hname
  simpa using habsent

theorem get?_resource_of_ne (h : p.IsConfined e) (hname : e.idAttribute ≠ name) :
    p.output.resource.get? name = p.input.resource.get? name := by
  rw [h.resource]
  split
  · cases p.outcome.id? with
    | none => rfl
    | some id => exact Dict.get?_insert_of_ne _ hname _
  · rfl

theorem get?_linkAttributes_of_ne (h : p.IsConfined e) (hname : e.idAttribute ≠ name) :
    p.output.linkAttributes.get? name = p.input.linkAttributes.get? name := by
  unfold Record.linkAttributes
  cases hinput : p.input.exemplar with
  | none =>
    cases houtput : p.output.exemplar with
    | none => rfl
    | some link =>
      obtain ⟨-, -, -, -, -, id, -, hattributes⟩ := h.linked link hinput houtput
      rw [Option.elim_some, hattributes, Dict.get?_insert_of_ne _ hname]
      rfl
  | some link =>
    obtain ⟨a, houtput, ha⟩ := h.relinked link hinput
    rw [houtput, Option.elim_some, Option.elim_some]
    rcases ha with rfl | ⟨-, id, -, rfl⟩
    · rfl
    · exact Dict.get?_insert_of_ne _ hname _

theorem get?_of_drops (h : p.IsConfined e) (hid : e.drops e.idAttribute = false)
    (hname : e.drops name) : p.output.attributes.get? name = none ∧
      p.output.resource.get? name = p.input.resource.get? name ∧
      p.output.linkAttributes.get? name = p.input.linkAttributes.get? name := by
  have hne : e.idAttribute ≠ name := by
    rintro rfl
    exact absurd hname (by simp [hid])
  exact ⟨h.get?_attributes_of_drops hid hname, h.get?_resource_of_ne hne,
    h.get?_linkAttributes_of_ne hne⟩

theorem clears_output_iff (h : p.IsConfined e) (hid : e.drops e.idAttribute = false) :
    e.Clears p.output ↔ ∀ name, e.drops name →
      ¬ p.input.resource.contains name ∧ ¬ p.input.linkAttributes.contains name := by
  simp only [Enricher.Clears, Record.maps, List.forall_mem_cons, List.not_mem_nil, false_implies,
    implies_true, and_true, Dict.contains]
  constructor
  · rintro ⟨-, hresource, hlink⟩ name hname
    obtain ⟨-, hresource', hlink'⟩ := h.get?_of_drops hid hname
    rw [← hresource', ← hlink']
    exact ⟨hresource name hname, hlink name hname⟩
  · intro hclear
    refine ⟨?_, ?_, ?_⟩
    · intro name hname
      simp [(h.get?_of_drops hid hname).1]
    · intro name hname
      rw [(h.get?_of_drops hid hname).2.1]
      exact (hclear name hname).1
    · intro name hname
      rw [(h.get?_of_drops hid hname).2.2]
      exact (hclear name hname).2

end Passage.IsConfined

namespace Enricher

variable {e : Enricher} {c : EnrichmentCounters} {t : Moment} {r r' : Record}

/-- A name that is to be dropped is gone from the attributes of the record, and in the resource and
the link it has the value that it had. So it is gone from the record exactly if it stood in neither
of them. -/
theorem clears_enriched_iff (hid : e.drops e.idAttribute = false)
    (h : (e.enrich c t r).result = some r') :
    (∀ name, e.drops name → r'.attributes.get? name = none ∧
      r'.resource.get? name = r.resource.get? name ∧
      r'.linkAttributes.get? name = r.linkAttributes.get? name) ∧
    (e.Clears r' ↔ ∀ name, e.drops name →
      ¬ r.resource.contains name ∧ ¬ r.linkAttributes.contains name) := by
  rw [enrich_result] at h
  obtain ⟨p, hp, rfl⟩ := Option.map_eq_some_iff.1 h
  obtain ⟨rfl, -⟩ := pass?_spec hp
  have hconfined := isConfined_of_pass? hp
  exact ⟨fun name hname ↦ hconfined.get?_of_drops hid hname, hconfined.clears_output_iff hid⟩

section Passwords

/-- An enricher without a guard that drops passwords. -/
def withoutPasswords : Enricher := .ofSettings {} { enabled := false, dropped := ["password"] }

def passwords : Attributes := (∅ : Attributes).insert "password" "hunter2"

/-- A span with a flow id among the attributes. -/
def spanWith (attributes resource : Attributes) : Record :=
  .span ⟨{ timestamp := ⟨0, 0⟩
           service := "s"
           attributes := attributes.insert "correlation_id" "x"
           resource := resource },
    none, "n", 0, .unset, none⟩

/-- A password among the attributes does not leave. -/
theorem clears_enriched_password_attribute : ∃ r',
    (withoutPasswords.enrich {} ⟨⟨0, 0⟩, []⟩ (spanWith passwords ∅)).result = some r' ∧
      withoutPasswords.Clears r' := by
  have hsome : (withoutPasswords.enrich {} ⟨⟨0, 0⟩, []⟩ (spanWith passwords ∅)).result.isSome := by
    decide +kernel
  obtain ⟨r', hr'⟩ := Option.isSome_iff_exists.1 hsome
  refine ⟨r', hr', (clears_enriched_iff (by decide +kernel) hr').2.2 ?_⟩
  intro name _
  exact ⟨by simp [spanWith, Record.resource, Record.envelope, Dict.contains],
    by simp [spanWith, Record.linkAttributes, Record.exemplar, Dict.contains]⟩

/-- A password in the resource does. -/
theorem not_clears_enriched_password_resource :
    withoutPasswords.drops withoutPasswords.idAttribute = false ∧
    withoutPasswords.drops "password" ∧ ∃ r',
      (withoutPasswords.enrich {} ⟨⟨0, 0⟩, []⟩ (spanWith ∅ passwords)).result = some r' ∧
      r'.resource.get? "password" = some "hunter2" ∧ ¬ withoutPasswords.Clears r' := by
  have hdrops : withoutPasswords.drops "password" := by decide +kernel
  have hvalue : (withoutPasswords.enrich {} ⟨⟨0, 0⟩, []⟩ (spanWith ∅ passwords)).result.map
      (·.resource.get? "password") = some (some "hunter2") := by
    decide +kernel
  obtain ⟨r', hr', hvalue⟩ := Option.map_eq_some_iff.1 hvalue
  refine ⟨by decide +kernel, hdrops, r', hr', hvalue, ?_⟩
  intro hclears
  apply hclears r'.resource (by simp [Record.maps]) "password" hdrops
  simp [Dict.contains, hvalue]

end Passwords

end Enricher

end FlowCorrelation
