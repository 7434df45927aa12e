import FlowCorrelation.Proofs.Enrichment.Attributes
import FlowCorrelation.Proofs.Enrichment.Outcome
import FlowCorrelation.Proofs.Enrichment.Stalling

namespace FlowCorrelation

namespace Resolution

variable {raw : String} {x : Resolution} {l l' : List (Provenance × String)}

def ofExisting? (raw : String) : Option Resolution := (ofCarried .existing raw).toOption

theorem ofExisting?_text (id : FlowId) : ofExisting? id.text = some ⟨id, .existing, false⟩ := by
  simp [ofExisting?, ofCarried, acceptId, FlowId.parse_text, bind, Except.bind, pure, Except.pure,
    Except.toOption]

theorem firstCarried_append (l l' : List (Provenance × String)) :
    firstCarried (l ++ l') = (firstCarried l).or (firstCarried l') := by
  induction l with
  | nil => rfl
  | cons s l ih =>
    simp only [List.cons_append, firstCarried, ih]
    split <;> rfl

theorem firstCarried_toList (raw : Option String) :
    firstCarried (raw.toList.map (fun raw ↦ (.existing, raw))) = raw.bind ofExisting? := by
  cases raw with
  | none => rfl
  | some raw =>
    simp only [Option.toList_some, List.map_cons, List.map_nil, firstCarried, ofExisting?,
      Option.bind_some]
    split <;> simp [*, Except.toOption]

end Resolution

def Record.ownId? (r : Record) (name : String) : Option Resolution :=
  ((r.resource.get? name).bind Resolution.ofExisting?).or
    ((r.attributes.get? name).bind Resolution.ofExisting?)

/-- Whether the record is resolved to the id by what stands under the attribute, and has the id
among its attributes if the text had to be repaired. -/
def Record.Bears (r : Record) (name : String) (id : FlowId) : Prop :=
  ∃ x, r.ownId? name = some x ∧ x.id = id ∧
    (x.provenance = .existing ∨ r.attributes.get? name = some id.text)

variable {e e₁ e₂ : Enricher} {t t₁ t₂ : Moment} {r r' : Record} {p p₁ : Passage}
  {x : Resolution} {g : Registrar} {o : Occasion} {name : String} {id : FlowId}

namespace Registrar

theorem firstCarried_carried (g : Registrar) (r : Record) :
    ∃ others, Resolution.firstCarried (g.carried (g.hints r)) =
      (r.ownId? g.settings.attributeName).or (Resolution.firstCarried others) := by
  have hown : [r.resource, r.attributes].filterMap (·.get? g.settings.attributeName) =
      (r.resource.get? g.settings.attributeName).toList ++
        (r.attributes.get? g.settings.attributeName).toList := by
    cases hr : r.resource.get? g.settings.attributeName <;>
      cases ha : r.attributes.get? g.settings.attributeName <;> simp [hr, ha]
  simp only [carried, hints, hown, List.map_append, List.append_assoc]
  rw [Resolution.firstCarried_append, Resolution.firstCarried_append,
    Resolution.firstCarried_toList, Resolution.firstCarried_toList]
  exact ⟨_, (Option.or_assoc ..).symm⟩

theorem resolve_of_ownId? (h : r.ownId? g.settings.attributeName = some x) (o : Occasion) :
    g.resolve o r = .resolved x := by
  obtain ⟨others, hfirst⟩ := g.firstCarried_carried r
  rw [h, Option.some_or] at hfirst
  simp [resolve, resolveHints, hfirst]

theorem provenance_of_ownId?_eq_none (h : g.resolve o r = .resolved x)
    (hnone : r.ownId? g.settings.attributeName = none) : x.provenance ≠ .existing := by
  intro hx
  obtain ⟨hresource, hattribute⟩ := Option.or_eq_none_iff.1 hnone
  rcases carried_of_existing h hx with hraw | hraw
  · simp [hraw, Resolution.ofExisting?_text] at hresource
  · simp [hraw, Resolution.ofExisting?_text] at hattribute

end Registrar

theorem Record.Bears.congr (h : r.Bears name id) (hresource : r'.resource = r.resource)
    (hattribute : r'.attributes.get? name = r.attributes.get? name) : r'.Bears name id := by
  simpa only [Bears, ownId?, hresource, hattribute] using h

namespace Enricher

theorem bears_write (h : e.registrar.resolve o r = .resolved x) :
    (e.write x r).Bears e.idAttribute x.id := by
  have hwritten := Resolution.ofExisting?_text x.id
  have hattribute : (e.write x r).attributes.get? e.idAttribute =
      if x.provenance = .existing then r.attributes.get? e.idAttribute else some x.id.text := by
    rw [attributes_write]
    split <;> simp
  -- An id that was written into the resource is found there first.
  by_cases hresource : e.registrar.settings.toResource
  · refine ⟨⟨x.id, .existing, false⟩, ?_, rfl, Or.inl rfl⟩
    simp [Record.ownId?, resource_write, hresource, hwritten]
  have hsame : (e.write x r).resource = r.resource := by
    rw [resource_write, if_neg hresource]
  cases hown : r.ownId? e.idAttribute with
  | none =>
    -- Nothing usable stood under the attribute, so the id was written there.
    have hx := Registrar.provenance_of_ownId?_eq_none h hown
    obtain ⟨hnone, -⟩ := Option.or_eq_none_iff.1 hown
    refine ⟨⟨x.id, .existing, false⟩, ?_, rfl, Or.inl rfl⟩
    simp [Record.ownId?, hsame, hnone, hattribute, hx, hwritten]
  | some y =>
    -- The id was read under the attribute, and it is read there again or was written there.
    obtain rfl : y = x := Outcome.resolved.inj
      ((Registrar.resolve_of_ownId? (g := e.registrar) hown o).symm.trans h)
    rcases Option.or_eq_some_iff.1 hown with hfound | ⟨hnone, hfound⟩
    · refine ⟨y, by rw [Record.ownId?, hsame, hfound, Option.some_or], rfl, ?_⟩
      by_cases hy : y.provenance = .existing
      · exact Or.inl hy
      · exact Or.inr (by rw [hattribute, if_neg hy])
    · by_cases hy : y.provenance = .existing
      · refine ⟨y, ?_, rfl, Or.inl hy⟩
        rw [Record.ownId?, hsame, hnone, Option.none_or, hattribute, if_pos hy, hfound]
      · refine ⟨⟨y.id, .existing, false⟩, ?_, rfl, Or.inl rfl⟩
        rw [Record.ownId?, hsame, hnone, Option.none_or, hattribute, if_neg hy, Option.bind_some,
          hwritten]

theorem bears_output (hp : e.pass? t r = some p) (hx : p.outcome = .resolved x) :
    p.output.Bears e.idAttribute x.id := by
  obtain ⟨-, -, houtcome, houtput⟩ := pass?_spec hp
  rw [houtput, hx, stamp]
  exact bears_write (houtcome.symm.trans hx)

/-- A stage that spares the id attribute finds the id that a record bears and leaves the attribute
as it is. -/
theorem pass?_of_bears (h : r.Bears e.idAttribute id) (hspares : e.Spares e.idAttribute)
    (hp : e.pass? t r = some p) :
    ∃ x, p.outcome = .resolved x ∧ x.id = id ∧
      p.output.attributes.get? e.idAttribute = r.attributes.get? e.idAttribute := by
  obtain ⟨a, ha, rfl⟩ := Option.map_eq_some_iff.1 hp
  have hsame : (r.withAttributes a).attributes.get? e.idAttribute =
      r.attributes.get? e.idAttribute := by
    rw [Record.attributes_withAttributes, hspares.get?_bounding ha]
  have hbears : (r.withAttributes a).Bears e.idAttribute id :=
    h.congr (r.resource_withAttributes a) hsame
  obtain ⟨x, hown, hid, hwritten⟩ := hbears
  have hresolve := Registrar.resolve_of_ownId? (g := e.registrar) hown t.occasion
  refine ⟨x, hresolve, hid, ?_⟩
  simp only [hresolve, stamp, attributes_write]
  rw [← hsame]
  split
  · rfl
  · rename_i hx
    rw [Dict.get?_insert_self, hwritten.resolve_left hx, hid]

/-- The id that one stage has resolved for a record is what any later stage resolves for it that has
the same id attribute and spares it, and the attribute stays as it is. The later stage gives no
answer exactly if its guard has none: if its window reaches back beyond the calendar and the record
brings an attribute that is full a value that is new. -/
theorem resolved_id_persists (h₁ : e₁.pass? t₁ r = some p₁) (hx : p₁.outcome = .resolved x)
    (hname : e₂.idAttribute = e₁.idAttribute) (hspares : e₂.Spares e₁.idAttribute) :
    (∀ c, (e₁.enrich c t₁ r).result = some p₁.output) ∧
      (∀ c, (e₂.enrich c t₂ p₁.output).result = none ↔ e₂.Stalls t₂.now [p₁.output]) ∧
      (¬ e₂.Stalls t₂.now [p₁.output] →
        ∃ p₂ x₂, (∀ c, (e₂.enrich c t₂ p₁.output).result = some p₂.output) ∧
          e₂.pass? t₂ p₁.output = some p₂ ∧ p₂.outcome = .resolved x₂ ∧ x₂.id = x.id ∧
          p₂.output.attributes.get? e₁.idAttribute = p₁.output.attributes.get? e₁.idAttribute) := by
  refine ⟨fun c ↦ ?_, fun c ↦ ?_, fun hanswers ↦ ?_⟩
  · rw [enrich_result, h₁, Option.map_some]
  · rw [enrich_result, Option.map_eq_none_iff, pass?_eq_none_iff]
  have hbears := bears_output h₁ hx
  rw [← hname] at hbears hspares ⊢
  obtain ⟨p₂, h₂⟩ := Option.ne_none_iff_exists'.1 (pass?_eq_none_iff.not.2 hanswers)
  obtain ⟨x₂, hx₂, hid, hattribute⟩ := pass?_of_bears hbears hspares h₂
  refine ⟨p₂, x₂, fun c ↦ ?_, h₂, hx₂, hid, hattribute⟩
  rw [enrich_result, h₂, Option.map_some]

/-- A text of the resource that has to be repaired stays there, and the next stage, an hour earlier
and under another head, repairs it to the same id. -/
theorem resolved_id_persists_repaired :
    let envelope : Envelope :=
      { timestamp := ⟨0, 0⟩
        service := "s"
        traceId := some "t"
        baggage := some "correlation_id=b"
        attributes := Dict.ofList [("user.id", "u"), ("X-Request-ID", "c")]
        resource := Dict.ofList [("correlation_id", "a';b")] }
    let r : Record := .log ⟨envelope, .info, "\x7b\"request_id\":\"d\"\x7d"⟩
    let e₁ : Enricher := {}
    let e₂ : Enricher :=
      { registrar := { settings := { head := "shop", toResource := true } }
        guard := some { defaultLimit := 0, window := 1 } }
    ∃ p₁ p₂ x₂, e₁.pass? ⟨⟨3600, 0⟩, []⟩ r = some p₁ ∧
      p₁.outcome = .resolved ⟨⟨"ab", by decide +kernel⟩, .header, true⟩ ∧
      e₂.idAttribute = e₁.idAttribute ∧ e₂.Spares e₁.idAttribute ∧
      e₂.pass? ⟨⟨0, 0⟩, []⟩ p₁.output = some p₂ ∧ p₂.outcome = .resolved x₂ ∧ x₂.id.text = "ab" ∧
      p₂.output.attributes.get? "correlation_id" = some "ab" := by
  intro envelope r e₁ e₂
  obtain ⟨p₁, h₁, hx, hattribute₁⟩ : ∃ p₁, e₁.pass? ⟨⟨3600, 0⟩, []⟩ r = some p₁ ∧
      p₁.outcome = .resolved ⟨⟨"ab", by decide +kernel⟩, .header, true⟩ ∧
      p₁.output.attributes.get? "correlation_id" = some "ab" :=
    ⟨_, rfl, by decide +kernel, by decide +kernel⟩
  have hname : e₂.idAttribute = e₁.idAttribute := rfl
  have hspares : e₂.Spares e₁.idAttribute :=
    ⟨by decide +kernel, fun _ ↦ by decide +kernel, fun _ ↦ by decide +kernel⟩
  have hanswers : ¬ e₂.Stalls ⟨0, 0⟩ [p₁.output] := by
    rintro ⟨g, hg, hwindow, -⟩
    obtain rfl := Option.some.inj hg
    exact absurd hwindow (by decide)
  obtain ⟨p₂, x₂, -, h₂, hx₂, hid, hattribute⟩ :=
    (@resolved_id_persists e₁ e₂ _ ⟨⟨0, 0⟩, []⟩ r p₁ _ h₁ hx hname hspares).2.2 hanswers
  exact ⟨p₁, p₂, x₂, h₁, hx, hname, hspares, h₂, hx₂, by rw [hid], hattribute.trans hattribute₁⟩

/-- An hour after one user another takes the only place, and at the beginning of the calendar the first,
whose record was resolved before, does not come through again. -/
theorem resolved_id_lost_at_first_second :
    let e₂ := (oneUser.after ⟨⟨0, 0⟩, []⟩ (userLog "u")).after ⟨⟨7200, 0⟩, []⟩ (userLog "v")
    ∃ p₁ x, oneUser.pass? ⟨⟨0, 0⟩, []⟩ (userLog "u") = some p₁ ∧ p₁.outcome = .resolved x ∧
      x.id.text = "x" ∧ e₂.idAttribute = oneUser.idAttribute ∧ e₂.Spares oneUser.idAttribute ∧
      e₂.pass? ⟨⟨Instant.firstSecond, 0⟩, []⟩ p₁.output = none := by
  intro e₂
  have hpass : (oneUser.pass? ⟨⟨0, 0⟩, []⟩ (userLog "u")).map (fun p ↦
      (p.outcome, (e₂.pass? ⟨⟨Instant.firstSecond, 0⟩, []⟩ p.output).isNone)) =
        some (.resolved ⟨⟨"x", by decide +kernel⟩, .existing, false⟩, true) := by decide +kernel
  obtain ⟨p₁, h₁, hp₁⟩ := Option.map_eq_some_iff.1 hpass
  obtain ⟨hx, hnone⟩ := Prod.mk.inj hp₁
  have hspares : e₂.Spares oneUser.idAttribute :=
    ⟨by decide +kernel, fun _ ↦ by decide +kernel, fun _ ↦ by decide +kernel⟩
  exact ⟨p₁, _, h₁, hx, rfl, rfl, hspares, Option.isNone_iff_eq_none.1 hnone⟩

end Enricher

end FlowCorrelation
