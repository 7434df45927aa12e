import FlowCorrelation.Proofs.Enrichment.Attributes

namespace FlowCorrelation

namespace Outcome

def id? : Outcome → Option FlowId
  | .resolved x => some x.id
  | _ => none

def written? : Outcome → Option FlowId
  | .resolved x => if x.provenance = .existing then none else some x.id
  | _ => none

end Outcome

/-- What a value of an attribute may become, unless the attribute is dropped or the id is written
in its place. -/
inductive Enricher.Turns (e : Enricher) (name : String) : String → String → Prop where
  | kept (value : String) : Turns e name value value
  | method (hnormalize : e.values.normalizeUrls) (hname : name = methodAttribute) (value : String) :
    Turns e name value (normalizeMethod value)
  | url (hnormalize : e.values.normalizeUrls) (hname : name ∈ urlAttributes) (value : String) :
    Turns e name value (normalizeUrl value)
  | refused (hguard : e.guard.isSome) (hname : name ∈ e.values.bounded) (value : String) :
    Turns e name value overflowValue

def Passage.Writes (e : Enricher) (p : Passage) (name : String) : Prop :=
  name = e.idAttribute ∧ p.outcome.written?.isSome

/-- The frame of a passage: what comes out is what went in, but for what the enricher may touch. -/
structure Passage.IsConfined (e : Enricher) (p : Passage) : Prop where
  decided : ∃ o a, p.bounded = p.input.withAttributes a ∧
    p.outcome = e.registrar.resolve o p.bounded
  kind : p.output.kind = p.input.kind
  rest : (p.output.withEnvelope p.input.envelope).withExemplar p.input.exemplar = p.input
  envelope : { p.output.envelope with
    attributes := p.input.attributes, resource := p.input.resource } = p.input.envelope
  present : ∀ name, ¬ p.Writes e name → ((p.output.attributes.get? name).isSome ↔
    (p.input.attributes.get? name).isSome ∧ ¬ e.drops name)
  turned : ∀ name, ¬ p.Writes e name → ∀ v w, p.input.attributes.get? name = some v →
    p.output.attributes.get? name = some w → e.Turns name v w
  written : ∀ id ∈ p.outcome.written?, p.output.attributes.get? e.idAttribute = some id.text
  resource : p.output.resource = if e.registrar.settings.toResource then
      p.outcome.id?.elim p.input.resource (fun id ↦ p.input.resource.insert e.idAttribute id.text)
    else p.input.resource
  unlinked : p.outcome.id? = none → p.output.exemplar = p.input.exemplar
  /-- A new link is one to the span that was active, and bears nothing but the id. -/
  linked : ∀ link, p.input.exemplar = none → p.output.exemplar = some link →
    p.input.kind = .metric ∧ p.input.envelope.traceId = some link.traceId ∧
      p.input.envelope.spanId = some link.spanId ∧ link.traceId ≠ "" ∧ link.spanId ≠ "" ∧
      ∃ id ∈ p.outcome.id?, link.filteredAttributes = (∅ : Attributes).insert e.idAttribute id.text
  relinked : ∀ link, p.input.exemplar = some link → ∃ a,
    p.output.exemplar = some { link with filteredAttributes := a } ∧
      (a = link.filteredAttributes ∨ link.filteredAttributes.get? e.idAttribute = none ∧
        ∃ id ∈ p.outcome.id?, a = link.filteredAttributes.insert e.idAttribute id.text)

namespace Enricher

variable {e : Enricher} {t : Moment} {r : Record} {p : Passage} {a : Attributes} {name v w : String}

theorem turns_normalForm (e : Enricher) (name value : String) :
    e.Turns name value (e.normalForm name value) := by
  unfold normalForm
  split
  · rename_i hnormalize
    split
    · rename_i hname
      exact .method (e := e) hnormalize hname value
    · split
      · rename_i hname
        exact .url (e := e) hnormalize hname value
      · exact .kept value
  · exact .kept value

theorem isSome_get?_prepared (e : Enricher) (a : Attributes) (name : String) :
    ((e.normalize (e.dropAttributes a)).get? name).isSome ↔
      (a.get? name).isSome ∧ ¬ e.drops name := by
  rw [get?_prepared]
  split
  · simp [*]
  · simp [*]

theorem isSome_get?_bounding (h : (e.bounding t r).2.1 = some a) (name : String) :
    (a.get? name).isSome ↔ (r.attributes.get? name).isSome ∧ ¬ e.drops name := by
  rw [← isSome_get?_prepared]
  rcases get?_bounding_cases h name with hsame | ⟨-, -, hpresent, hreplaced⟩
  · rw [hsame]
  · simp [hpresent, hreplaced]

theorem turns_of_bounding (h : (e.bounding t r).2.1 = some a)
    (hv : r.attributes.get? name = some v) (hw : a.get? name = some w) : e.Turns name v w := by
  rcases get?_bounding_cases h name with hsame | ⟨hguard, hname, -, hreplaced⟩
  · rw [hw, get?_prepared, hv] at hsame
    split at hsame
    · cases hsame
    · obtain rfl : w = e.normalForm name v := Option.some.inj hsame
      exact e.turns_normalForm name v
  · obtain rfl := Option.some.inj (hw.symm.trans hreplaced)
    exact .refused hguard hname v

section Write

variable (e : Enricher) (x : Resolution) (r : Record) (m : MetricPoint) (outcome : Outcome)

theorem exemplar_write : (e.write x r).exemplar = linkWith e.idAttribute x.id r := by
  rw [write_eq]
  cases r <;> rfl

theorem rest_stamp :
    ((e.stamp r outcome).withEnvelope r.envelope).withExemplar r.exemplar = r := by
  cases outcome with
  | resolved x =>
    rw [stamp, write_eq, Record.withExemplar_withEnvelope, Record.withExemplar_withExemplar,
      Record.withExemplar_withEnvelope, Record.withEnvelope_withEnvelope,
      Record.withExemplar_exemplar, Record.withEnvelope_envelope]
  | rejected d =>
    have hsame : e.stamp r (.rejected d) = r := rfl
    rw [hsame, Record.withEnvelope_envelope, Record.withExemplar_exemplar]
  | unresolved =>
    have hsame : e.stamp r .unresolved = r := rfl
    rw [hsame, Record.withEnvelope_envelope, Record.withExemplar_exemplar]

theorem envelope_stamp : { (e.stamp r outcome).envelope with
    attributes := r.attributes, resource := r.resource } = r.envelope := by
  cases outcome with
  | resolved x =>
    rw [stamp, envelope_write]
    rfl
  | rejected d => rfl
  | unresolved => rfl

theorem attributes_stamp : (e.stamp r outcome).attributes =
    outcome.written?.elim r.attributes (fun id ↦ r.attributes.insert e.idAttribute id.text) := by
  cases outcome with
  | resolved x =>
    rw [stamp, attributes_write, Outcome.written?]
    split <;> rfl
  | rejected d => rfl
  | unresolved => rfl

theorem resource_stamp : (e.stamp r outcome).resource =
    if e.registrar.settings.toResource then
      outcome.id?.elim r.resource (fun id ↦ r.resource.insert e.idAttribute id.text)
    else r.resource := by
  cases outcome with
  | resolved x => exact e.resource_write x r
  | rejected d => exact (ite_self _).symm
  | unresolved => exact (ite_self _).symm

theorem exemplar_stamp_of_id?_eq_none (h : outcome.id? = none) :
    (e.stamp r outcome).exemplar = r.exemplar := by
  cases outcome with
  | resolved x => cases h
  | rejected d => rfl
  | unresolved => rfl

end Write

theorem of_exemplar_linkExemplar {m : MetricPoint} {id : FlowId} {link : Exemplar}
    (hnone : m.exemplar = none) (h : (linkExemplar name id m).exemplar = some link) :
    m.traceId = some link.traceId ∧ m.spanId = some link.spanId ∧ link.traceId ≠ "" ∧
      link.spanId ≠ "" ∧ link.filteredAttributes = (∅ : Attributes).insert name id.text := by
  have hempty : ¬ (∅ : Attributes).contains name := by simp [Dict.contains]
  by_cases hactive : m.hasActiveSpan
  · simp only [linkExemplar, hactive, hnone, if_true, Option.getD_none, Option.map_some, hempty,
      if_false, Option.some.injEq, Bool.false_eq_true] at h
    obtain ⟨htrace, hspan⟩ := Bool.and_eq_true_iff.1 hactive
    obtain ⟨trace, htrace, htrace'⟩ := (Option.any_eq_true _ _).1 htrace
    obtain ⟨span, hspan, hspan'⟩ := (Option.any_eq_true _ _).1 hspan
    rw [htrace, hspan] at h ⊢
    subst h
    exact ⟨rfl, rfl, of_decide_eq_true htrace', of_decide_eq_true hspan', rfl⟩
  · simp [linkExemplar, hactive, hnone] at h

theorem exemplar_linkExemplar {m : MetricPoint} {link : Exemplar} (hlink : m.exemplar = some link)
    (name : String) (id : FlowId) : ∃ a, (linkExemplar name id m).exemplar =
        some { link with filteredAttributes := a } ∧
      (a = link.filteredAttributes ∨ link.filteredAttributes.get? name = none ∧
        a = link.filteredAttributes.insert name id.text) := by
  by_cases hknown : link.filteredAttributes.contains name
  · refine ⟨link.filteredAttributes, ?_, Or.inl rfl⟩
    simp [linkExemplar, hlink, hknown]
  · refine ⟨link.filteredAttributes.insert name id.text, ?_, Or.inr ⟨?_, rfl⟩⟩
    · simp [linkExemplar, hlink, hknown]
    · simpa [Dict.contains] using hknown

theorem linked_stamp {outcome : Outcome} {link : Exemplar} (hnone : r.exemplar = none)
    (h : (e.stamp r outcome).exemplar = some link) :
    r.kind = .metric ∧ r.envelope.traceId = some link.traceId ∧
      r.envelope.spanId = some link.spanId ∧ link.traceId ≠ "" ∧ link.spanId ≠ "" ∧
      ∃ id ∈ outcome.id?,
        link.filteredAttributes = (∅ : Attributes).insert e.idAttribute id.text := by
  cases hid : outcome.id? with
  | none =>
    rw [e.exemplar_stamp_of_id?_eq_none r outcome hid, hnone] at h
    cases h
  | some id =>
    cases outcome with
    | resolved x =>
      obtain rfl : x.id = id := Option.some.inj hid
      rw [stamp, exemplar_write] at h
      cases r with
      | metric m =>
        obtain ⟨htrace, hspan, htrace', hspan', hattributes⟩ := of_exemplar_linkExemplar hnone h
        exact ⟨rfl, htrace, hspan, htrace', hspan', x.id, rfl, hattributes⟩
      | span s => cases h
      | log l => cases h
    | rejected d => cases hid
    | unresolved => cases hid

theorem relinked_stamp {link : Exemplar} (hlink : r.exemplar = some link) (e : Enricher)
    (outcome : Outcome) : ∃ a,
    (e.stamp r outcome).exemplar = some { link with filteredAttributes := a } ∧
      (a = link.filteredAttributes ∨ link.filteredAttributes.get? e.idAttribute = none ∧
        ∃ id ∈ outcome.id?, a = link.filteredAttributes.insert e.idAttribute id.text) := by
  cases hid : outcome.id? with
  | none =>
    rw [e.exemplar_stamp_of_id?_eq_none r outcome hid]
    exact ⟨link.filteredAttributes, hlink, Or.inl rfl⟩
  | some id =>
    cases outcome with
    | resolved x =>
      obtain rfl : x.id = id := Option.some.inj hid
      rw [stamp, exemplar_write]
      cases r with
      | metric m =>
        obtain ⟨a, hm, ha⟩ := exemplar_linkExemplar hlink e.idAttribute x.id
        refine ⟨a, hm, ?_⟩
        rcases ha with hkept | ⟨hmissing, hinsert⟩
        · exact Or.inl hkept
        · exact Or.inr ⟨hmissing, x.id, rfl, hinsert⟩
      | span s => cases hlink
      | log l => cases hlink
    | rejected d => cases hid
    | unresolved => cases hid

theorem bounding_of_pass? (h : e.pass? t r = some p) :
    (e.bounding t r).2.1 = some p.bounded.attributes := by
  obtain ⟨a, ha, rfl⟩ := Option.map_eq_some_iff.1 h
  rw [ha, Record.attributes_withAttributes]

theorem get?_output_of_not_writes (h : e.pass? t r = some p) (hname : ¬ p.Writes e name) :
    p.output.attributes.get? name = p.bounded.attributes.get? name := by
  obtain ⟨-, -, -, houtput⟩ := pass?_spec h
  rw [houtput, attributes_stamp]
  cases hwritten : p.outcome.written? with
  | none => rfl
  | some id =>
    have hne : e.idAttribute ≠ name := by
      rintro rfl
      exact hname ⟨rfl, by simp [hwritten]⟩
    exact Dict.get?_insert_of_ne _ hne _

/-- The frame of one record. -/
theorem isConfined_of_pass? (h : e.pass? t r = some p) : p.IsConfined e := by
  have hbounding := bounding_of_pass? h
  obtain ⟨rfl, ⟨a, hbounded⟩, houtcome, houtput⟩ := pass?_spec h
  have hkind : p.bounded.kind = p.input.kind := by
    rw [hbounded, Record.withAttributes, Record.kind_withEnvelope]
  have hexemplar : p.bounded.exemplar = p.input.exemplar := by
    rw [hbounded, Record.withAttributes, Record.exemplar_withEnvelope]
  have hresource : p.bounded.resource = p.input.resource := by
    rw [hbounded, Record.resource_withAttributes]
  have henvelope : p.bounded.envelope = { p.input.envelope with attributes := a } := by
    rw [hbounded, Record.withAttributes, Record.envelope_withEnvelope]
  refine {
    decided := ⟨t.occasion, a, hbounded, houtcome⟩
    kind := kind_output h
    rest := ?rest
    envelope := ?envelope
    present := ?present
    turned := ?turned
    written := ?written
    resource := ?resource
    unlinked := ?unlinked
    linked := ?linked
    relinked := ?relinked }
  case rest =>
    have hrest := e.rest_stamp p.bounded p.outcome
    rw [← houtput, hexemplar, Record.withExemplar_withEnvelope] at hrest
    calc (p.output.withEnvelope p.input.envelope).withExemplar p.input.exemplar
      _ = (p.output.withExemplar p.input.exemplar).withEnvelope p.input.envelope :=
        Record.withExemplar_withEnvelope _ _ _
      _ = p.bounded.withEnvelope p.input.envelope := by
        rw [← Record.withEnvelope_withEnvelope _ p.bounded.envelope, hrest]
      _ = p.input := by
        rw [hbounded, Record.withAttributes, Record.withEnvelope_withEnvelope,
          Record.withEnvelope_envelope]
  case envelope =>
    have hstamp := congrArg (fun v : Envelope ↦ { v with
      attributes := p.input.attributes, resource := p.input.resource })
      (e.envelope_stamp p.bounded p.outcome)
    rw [← houtput, henvelope] at hstamp
    exact hstamp
  case present =>
    intro name hname
    rw [get?_output_of_not_writes h hname]
    exact isSome_get?_bounding hbounding name
  case turned =>
    intro name hname v w hv hw
    rw [get?_output_of_not_writes h hname] at hw
    exact turns_of_bounding hbounding hv hw
  case written =>
    intro id hid
    rw [houtput, attributes_stamp, Option.mem_def.1 hid]
    exact Dict.get?_insert_self _ _ _
  case resource =>
    rw [houtput, resource_stamp, hresource]
  case unlinked =>
    intro hid
    rw [houtput, e.exemplar_stamp_of_id?_eq_none _ _ hid, hexemplar]
  case linked =>
    intro link hnone hlink
    have hlinked := linked_stamp (hexemplar.trans hnone) (houtput ▸ hlink)
    rwa [hkind, henvelope] at hlinked
  case relinked =>
    intro link hlink
    rw [houtput]
    exact relinked_stamp (hexemplar.trans hlink) e p.outcome

theorem Turns.of_guard {guard : Option ValueGuard} (hguard : guard.isSome = e.guard.isSome)
    (h : { e with guard := guard }.Turns name v w) : e.Turns name v w := by
  cases h with
  | kept => exact .kept v
  | method hnormalize hname => exact .method (e := e) hnormalize hname v
  | url hnormalize hname => exact .url (e := e) hnormalize hname v
  | refused hsome hname => exact .refused (e := e) (hguard ▸ hsome) hname v

theorem isConfined_of_guard {guard : Option ValueGuard} (hguard : guard.isSome = e.guard.isSome)
    (h : p.IsConfined { e with guard := guard }) : p.IsConfined e :=
  { h with turned := fun name hname v w hv hw ↦ (h.turned name hname v w hv hw).of_guard hguard }

theorem isConfined_of_mem_passages {now : Instant} {random : Nat → List UInt8} {i : Nat}
    {l : List Passage} {batch : List Record} (h : passages? now random i e batch = some l)
    (hp : p ∈ l) : p.IsConfined e := by
  obtain ⟨guard, t, hguard, hpass⟩ := exists_guard_of_mem h hp
  exact isConfined_of_guard hguard (isConfined_of_pass? hpass)

end Enricher

end FlowCorrelation
