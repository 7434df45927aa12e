import FlowCorrelation.Proofs.Enrichment.Outcome
import FlowCorrelation.Proofs.Enrichment.Passage
import FlowCorrelation.Proofs.FlowStore.Retrieval

namespace FlowCorrelation

namespace Passage

variable (p : Passage) (s : FlowStore) (x : Resolution)

/-- The id was found in the resource, and the attributes name another flow. -/
def Shadowed : Prop :=
  x.provenance = .existing ∧ p.bounded.resource.get? s.attributeName = some x.id.text ∧
    ∃ raw, p.bounded.attributes.get? s.attributeName = some raw ∧
      identityKey raw s.head ≠ x.id.identity s.head

/-- A text that is no id is left where the record is filed by it: an attribute beside an id that was
found in the resource, or whatever was turned down where nothing was resolved. -/
def LeavesMalformed : Prop :=
  match p.outcome with
  | .resolved x => x.provenance = .existing ∧
    ∃ raw d, p.bounded.attributes.get? s.attributeName = some raw ∧ FlowId.parse raw = .error d
  | _ => p.bounded.attributes.contains s.attributeName ∨
    p.bounded.resource.contains s.attributeName ∨
    ∃ link raw d, p.bounded.exemplar = some link ∧
      link.filteredAttributes.get? s.attributeName = some raw ∧ FlowId.parse raw = .error d

end Passage

section Filing

variable {e : Enricher} {t : Moment} {r : Record} {p : Passage} {s : FlowStore} {x : Resolution}

/-- An id that is not an existing one is what the record carries afterwards; beside an existing one
an attribute stays. -/
theorem Enricher.carriedId_output (hp : e.pass? t r = some p) (hx : p.outcome = .resolved x) :
    p.output.carriedId e.idAttribute = some (if x.provenance = .existing then
      (p.bounded.attributes.get? e.idAttribute).getD x.id.text else x.id.text) := by
  obtain ⟨-, -, houtcome, houtput⟩ := pass?_spec hp
  have hresolve := houtcome.symm.trans hx
  rw [houtput, hx, stamp, Record.carriedId, attributes_write, resource_write]
  by_cases hexisting : x.provenance = .existing
  · simp only [hexisting, if_true]
    cases hattribute : p.bounded.attributes.get? e.idAttribute with
    | some raw => simp
    | none =>
      have hresource : p.bounded.resource.get? e.idAttribute = some x.id.text := by
        rcases Registrar.carried_of_existing hresolve hexisting with h | h
        · exact h
        · rw [idAttribute, h] at hattribute
          cases hattribute
      split <;> simp [hresource]
  · simp [hexisting]

theorem Enricher.carriedId_output_of_not_resolved (hp : e.pass? t r = some p)
    (hx : ∀ x, p.outcome ≠ .resolved x) (name : String) :
    p.output.carriedId name = p.bounded.carriedId name := by
  obtain ⟨-, -, -, houtput⟩ := pass?_spec hp
  rw [houtput]
  cases houtcome : p.outcome with
  | resolved x => exact absurd houtcome (hx x)
  | rejected d => rfl
  | unresolved => rfl

/-- A passage is shadowed if and only if the store files its record under another key than that of
the id. -/
theorem Passage.shadowed_iff (hp : e.pass? t r = some p) (hx : p.outcome = .resolved x)
    (hs : s.attributeName = e.idAttribute) :
    p.Shadowed s x ↔ s.keyOf p.output ≠ some (x.id.identity s.head) := by
  have hcarried := Enricher.carriedId_output hp hx
  have hresolve := (Enricher.pass?_spec hp).2.2.1.symm.trans hx
  rw [FlowStore.keyOf, hs, hcarried]
  by_cases hexisting : x.provenance = .existing
  · simp only [Shadowed, hs, hexisting, if_true, true_and]
    cases hattribute : p.bounded.attributes.get? e.idAttribute with
    | none => simp [FlowId.identity]
    | some raw =>
      constructor
      · rintro ⟨-, raw', hraw', hne⟩
        obtain rfl : raw = raw' := Option.some.inj hraw'
        simpa using hne
      · intro hne
        have hne : identityKey raw s.head ≠ x.id.identity s.head := by simpa using hne
        refine ⟨?_, raw, rfl, hne⟩
        -- Had the id been found among the attributes, the attribute would have its key.
        rcases Registrar.carried_of_existing hresolve hexisting with h | h
        · exact h
        · rw [← Enricher.idAttribute, hattribute] at h
          exact absurd (by rw [Option.some.inj h]; rfl) hne
  · simp [Shadowed, hexisting, FlowId.identity]

/-- A record whose id was resolved is found under this id as soon as it is stored, unless its
attributes name another flow than the resource in which the id was found. -/
theorem mem_recordsOf_insert_output_iff (hp : e.pass? t r = some p) (hx : p.outcome = .resolved x)
    (hs : s.attributeName = e.idAttribute) :
    (∀ c, (e.enrich c t r).result = some p.output) ∧
      (p.output ∈ (s.insert p.output).recordsOf p.output.kind x.id ↔
        ¬ p.Shadowed s x ∨ p.output ∈ s.recordsOf p.output.kind x.id) := by
  refine ⟨fun c ↦ by rw [Enricher.enrich_result, hp, Option.map_some], ?_⟩
  rw [FlowStore.mem_recordsOf_insert, Passage.shadowed_iff hp hx hs, ne_eq,
    Decidable.not_not]

/-- Two stamps of one trace, in the resource and among the attributes, do not part a record from
its id. -/
theorem mem_recordsOf_insert_restamped :
    let envelope : Envelope :=
      { timestamp := ⟨0, 0⟩
        service := "s"
        attributes := Dict.ofList [("correlation_id", "olly-2-0a0b0c0d")]
        resource := Dict.ofList [("correlation_id", "olly-1-0a0b0c0d")] }
    let e : Enricher := {}
    let s : FlowStore := {}
    let id : FlowId := ⟨"olly-1-0a0b0c0d", by decide +kernel⟩
    ∃ p, e.pass? ⟨⟨0, 0⟩, []⟩ (.log ⟨envelope, .info, ""⟩) = some p ∧
      p.outcome = .resolved ⟨id, .existing, false⟩ ∧ s.attributeName = e.idAttribute ∧
      p.output ∈ (s.insert p.output).recordsOf p.output.kind id := by
  intro envelope e s id
  obtain ⟨p, hp, hx, hkey⟩ : ∃ p, e.pass? ⟨⟨0, 0⟩, []⟩ (.log ⟨envelope, .info, ""⟩) = some p ∧
      p.outcome = .resolved ⟨id, .existing, false⟩ ∧
      s.keyOf p.output = some (id.identity s.head) :=
    ⟨_, rfl, by decide +kernel, by decide +kernel⟩
  have hfound := (mem_recordsOf_insert_output_iff (s := s) hp hx rfl).2
  exact ⟨p, hp, hx, rfl, hfound.2 (Or.inl (fun h ↦ (Passage.shadowed_iff hp hx rfl).1 h hkey))⟩

/-- The resource names one flow and the attributes another: the id of the first is resolved, and
under it nothing is found. -/
theorem not_mem_recordsOf_insert_shadowed :
    let envelope : Envelope :=
      { timestamp := ⟨0, 0⟩
        service := "s"
        attributes := Dict.ofList [("correlation_id", "b")]
        resource := Dict.ofList [("correlation_id", "a")] }
    let e : Enricher := {}
    let s : FlowStore := {}
    let id : FlowId := ⟨"a", by decide +kernel⟩
    ∃ p, e.pass? ⟨⟨0, 0⟩, []⟩ (.log ⟨envelope, .info, ""⟩) = some p ∧
      p.outcome = .resolved ⟨id, .existing, false⟩ ∧ s.attributeName = e.idAttribute ∧
      p.output ∉ (s.insert p.output).recordsOf p.output.kind id := by
  intro envelope e s id
  obtain ⟨p, hp, hx, hempty⟩ : ∃ p, e.pass? ⟨⟨0, 0⟩, []⟩ (.log ⟨envelope, .info, ""⟩) = some p ∧
      p.outcome = .resolved ⟨id, .existing, false⟩ ∧
      ((s.insert p.output).recordsOf p.output.kind id).length = 0 :=
    ⟨_, rfl, by decide +kernel, by decide +kernel⟩
  refine ⟨p, hp, hx, rfl, ?_⟩
  rw [List.eq_nil_of_length_eq_zero hempty]
  exact List.not_mem_nil

theorem Passage.leavesMalformed_of_resolved (hp : e.pass? t r = some p)
    (hx : p.outcome = .resolved x) (hs : s.attributeName = e.idAttribute) :
    p.LeavesMalformed s ↔
      ∃ raw d, p.output.carriedId s.attributeName = some raw ∧ FlowId.parse raw = .error d := by
  rw [hs, Enricher.carriedId_output hp hx, ← hs]
  simp only [LeavesMalformed, hx]
  by_cases hexisting : x.provenance = .existing
  · cases hattribute : p.bounded.attributes.get? s.attributeName with
    | none => simp [hexisting, FlowId.parse_text]
    | some raw => simp [hexisting]
  · simp [hexisting, FlowId.parse_text]

/-- Where nothing is resolved, any text under the id attribute of the record or its resource is one
that was turned down. -/
theorem Passage.leavesMalformed_of_not_resolved (hp : e.pass? t r = some p)
    (hx : ∀ x, p.outcome ≠ .resolved x) (hs : s.attributeName = e.idAttribute) :
    p.LeavesMalformed s ↔
      ∃ raw d, p.output.carriedId s.attributeName = some raw ∧ FlowId.parse raw = .error d := by
  have hresolve (x) : e.registrar.resolve t.occasion p.bounded ≠ .resolved x :=
    (Enricher.pass?_spec hp).2.2.1 ▸ hx x
  have hdown {raw} (hraw : p.bounded.resource.get? s.attributeName = some raw ∨
      p.bounded.attributes.get? s.attributeName = some raw) : ∃ d, FlowId.parse raw = .error d := by
    rw [hs] at hraw
    exact Registrar.parse_error_of_not_resolved hresolve hraw
  have hleaves : p.LeavesMalformed s ↔ p.bounded.attributes.contains s.attributeName ∨
      p.bounded.resource.contains s.attributeName ∨ ∃ link raw d, p.bounded.exemplar = some link ∧
        link.filteredAttributes.get? s.attributeName = some raw ∧ FlowId.parse raw = .error d := by
    unfold LeavesMalformed
    split
    · rename_i x hx'
      exact absurd hx' (hx x)
    · rfl
  rw [hleaves, Enricher.carriedId_output_of_not_resolved hp hx, Record.carriedId]
  -- The cases follow the order in which the store looks: attributes, resource, link.
  cases hattribute : p.bounded.attributes.get? s.attributeName with
  | some raw =>
    obtain ⟨d, hd⟩ := hdown (Or.inr hattribute)
    simp [Dict.contains, hattribute, hd]
  | none =>
    cases hresource : p.bounded.resource.get? s.attributeName with
    | some raw =>
      obtain ⟨d, hd⟩ := hdown (Or.inl hresource)
      simp [Dict.contains, hattribute, hresource, hd]
    | none =>
      cases p.bounded.exemplar with
      | none => simp [Dict.contains, hattribute, hresource]
      | some link => simp [Dict.contains, hattribute, hresource]

/-- A record is filed under a text that is no id exactly if its passage leaves one where the store
looks. -/
theorem filed_under_malformed_iff (hp : e.pass? t r = some p) (hs : s.attributeName = e.idAttribute) :
    (∀ c, (e.enrich c t r).result = some p.output) ∧
      ((∃ raw d, p.output.carriedId s.attributeName = some raw ∧ FlowId.parse raw = .error d ∧
        s.insert p.output = s.put (identityKey raw s.head) p.output) ↔ p.LeavesMalformed s) := by
  have hleaves : p.LeavesMalformed s ↔
      ∃ raw d, p.output.carriedId s.attributeName = some raw ∧ FlowId.parse raw = .error d := by
    cases hx : p.outcome with
    | resolved x => exact p.leavesMalformed_of_resolved hp hx hs
    | rejected d => exact p.leavesMalformed_of_not_resolved hp (by simp [hx]) hs
    | unresolved => exact p.leavesMalformed_of_not_resolved hp (by simp [hx]) hs
  refine ⟨fun c ↦ by rw [Enricher.enrich_result, hp, Option.map_some], ?_⟩
  rw [hleaves]
  constructor
  · rintro ⟨raw, d, hcarried, hd, -⟩
    exact ⟨raw, d, hcarried, hd⟩
  · rintro ⟨raw, d, hcarried, hd⟩
    exact ⟨raw, d, hcarried, hd, FlowStore.insert_of_carriedId hcarried⟩

/-- A text under the id attribute that can be repaired is filed as it is repaired. -/
theorem filed_repaired :
    let envelope : Envelope :=
      { timestamp := ⟨0, 0⟩
        service := "s"
        attributes := Dict.ofList [("correlation_id", "a';b")] }
    let e : Enricher := {}
    let s : FlowStore := {}
    ∃ p, e.pass? ⟨⟨0, 0⟩, []⟩ (.log ⟨envelope, .info, ""⟩) = some p ∧
      s.attributeName = e.idAttribute ∧ p.output.carriedId s.attributeName = some "ab" ∧
      ¬ ∃ raw d, p.output.carriedId s.attributeName = some raw ∧ FlowId.parse raw = .error d ∧
        s.insert p.output = s.put (identityKey raw s.head) p.output := by
  intro envelope e s
  obtain ⟨p, hp, hx, hcarried⟩ : ∃ p, e.pass? ⟨⟨0, 0⟩, []⟩ (.log ⟨envelope, .info, ""⟩) = some p ∧
      p.outcome = .resolved ⟨⟨"ab", by decide +kernel⟩, .header, true⟩ ∧
      p.output.carriedId s.attributeName = some "ab" :=
    ⟨_, rfl, by decide +kernel, by decide +kernel⟩
  refine ⟨p, hp, rfl, hcarried, fun hfiled ↦ ?_⟩
  have hleaves := (filed_under_malformed_iff (s := s) hp rfl).2.1 hfiled
  simp [Passage.LeavesMalformed, hx] at hleaves

/-- A metric point offers nothing but quotes, nothing is resolved for it, and it is filed under the
quotes. -/
theorem metric_filed_under_quotes :
    let envelope : Envelope :=
      { timestamp := ⟨0, 0⟩
        service := "s"
        attributes := Dict.ofList [("correlation_id", "';'")] }
    let e : Enricher := {}
    let s : FlowStore := {}
    ∃ p d, e.pass? ⟨⟨0, 0⟩, []⟩ (.metric ⟨envelope, "n", 1, none, none, none⟩) = some p ∧
      p.outcome = .unresolved ∧ s.attributeName = e.idAttribute ∧
      p.output.carriedId s.attributeName = some "';'" ∧ FlowId.parse "';'" = .error d ∧
      s.insert p.output = s.put (identityKey "';'" s.head) p.output := by
  intro envelope e s
  obtain ⟨p, hp, hx, hcarried⟩ :
      ∃ p, e.pass? ⟨⟨0, 0⟩, []⟩ (.metric ⟨envelope, "n", 1, none, none, none⟩) = some p ∧
        p.outcome = .unresolved ∧ p.output.carriedId s.attributeName = some "';'" :=
    ⟨_, rfl, by decide +kernel, by decide +kernel⟩
  have hdefect : idDefect? "';'" = some (.injection ";") := by decide +kernel
  exact ⟨p, _, hp, hx, rfl, hcarried, FlowId.parse_eq_error_iff.2 hdefect,
    FlowStore.insert_of_carriedId hcarried⟩

end Filing

end FlowCorrelation
