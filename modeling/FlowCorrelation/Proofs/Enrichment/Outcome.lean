import FlowCorrelation.Enrichment.Resolution

namespace FlowCorrelation

namespace Resolution

variable {source : Provenance} {raw : String} {x : Resolution} {l : List (Provenance × String)}

theorem ofCarried_cases (h : ofCarried source raw = .ok x) :
    (x.provenance = source ∧ x.id.text = raw) ∨
      (x.provenance = if source = .existing then .header else source) := by
  cases hp : FlowId.parse raw with
  | ok id =>
    simp only [ofCarried, acceptId, hp, bind, Except.bind, pure, Except.pure] at h
    cases h
    exact Or.inl ⟨by simp, FlowId.text_of_parse hp⟩
  | error d =>
    cases hs : FlowId.sanitize raw with
    | error d' => simp [ofCarried, acceptId, hp, hs, bind, Except.bind] at h
    | ok id =>
      simp only [ofCarried, acceptId, hp, hs, bind, Except.bind, pure, Except.pure] at h
      cases h
      exact Or.inr (by simp)

theorem provenance_of_ofCarried (h : ofCarried source raw = .ok x) :
    x.provenance = source ∨ x.provenance = .header := by
  rcases ofCarried_cases h with ⟨hx, -⟩ | hx
  · exact Or.inl hx
  · split at hx
    · exact Or.inr hx
    · exact Or.inl hx

theorem existing_of_ofCarried (h : ofCarried source raw = .ok x) (hx : x.provenance = .existing) :
    source = .existing ∧ x.id.text = raw := by
  rcases ofCarried_cases h with ⟨hsource, htext⟩ | hx'
  · exact ⟨hsource.symm.trans hx, htext⟩
  · split at hx'
    · exact absurd (hx.symm.trans hx') (by decide)
    · exact absurd (hx'.symm.trans hx) ‹_›

theorem parse_error_of_ofCarried_error {d : IdDefect} (h : ofCarried source raw = .error d) :
    ∃ d', FlowId.parse raw = .error d' := by
  cases hp : FlowId.parse raw with
  | error d' => exact ⟨d', rfl⟩
  | ok id => simp [ofCarried, acceptId, hp, bind, Except.bind, pure, Except.pure] at h

theorem exists_of_firstCarried_eq_some (h : firstCarried l = some x) :
    ∃ s ∈ l, ofCarried s.1 s.2 = .ok x := by
  induction l with
  | nil => simp [firstCarried] at h
  | cons s l ih =>
    simp only [firstCarried] at h
    split at h
    · rename_i y hy
      exact ⟨s, List.mem_cons_self, Option.some.inj h ▸ hy⟩
    · obtain ⟨s', hs', ho⟩ := ih h
      exact ⟨s', List.mem_cons_of_mem s hs', ho⟩

theorem error_of_firstCarried_eq_none (h : firstCarried l = none) :
    ∀ s ∈ l, ∃ d, ofCarried s.1 s.2 = .error d := by
  induction l with
  | nil => simp
  | cons s l ih =>
    simp only [firstCarried] at h
    split at h
    · cases h
    · rename_i d hd
      intro s' hs'
      rcases List.mem_cons.1 hs' with rfl | hs'
      · exact ⟨d, hd⟩
      · exact ih h s' hs'

end Resolution

namespace Registrar

variable {g : Registrar} {o : Occasion} {r : Record} {x : Resolution} {raw : String}

theorem mem_carried_existing {h : Hints} : (.existing, raw) ∈ g.carried h ↔
    ∃ m ∈ h.maps, m.get? g.settings.attributeName = some raw := by
  have hbaggage : (Provenance.existing, raw) ∉ (if g.settings.fromBaggage then
      (h.baggage.bind (Baggage.value? · g.settings.baggageKey)).toList.map
        (fun raw ↦ (Provenance.baggage, raw)) else []) := by
    split <;> simp
  simp [carried, hbaggage]

theorem carried_ne_made {h : Hints} {s : Provenance × String} (hs : s ∈ g.carried h) :
    s.1 ≠ .derived ∧ s.1 ≠ .generated := by
  simp only [carried, List.mem_append, List.mem_map] at hs
  rcases hs with ((⟨_, _, rfl⟩ | hs) | ⟨_, _, rfl⟩) | ⟨_, _, rfl⟩
  · simp
  · split at hs
    · obtain ⟨_, _, rfl⟩ := List.mem_map.1 hs
      simp
    · cases hs
  · simp
  · simp

/-- A resolved id is the first usable one that is carried, or one made where none is usable. -/
theorem resolve_cases (h : g.resolve o r = .resolved x) :
    Resolution.firstCarried (g.carried (g.hints r)) = some x ∨
      ∃ source id, g.made o (traceOf r) (g.hints r).mayGenerate = some (source, .ok id) ∧
        x = ⟨id, source, false⟩ := by
  simp only [resolve, resolveHints] at h
  split at h
  · rename_i y hy
    exact Or.inl (Outcome.resolved.inj h ▸ hy)
  · split at h
    · rename_i source id hmade
      cases id with
      | error d => cases h
      | ok id => exact Or.inr ⟨source, id, hmade, (Outcome.resolved.inj h).symm⟩
    · cases h

theorem made_eq_some {traceId : Option String} {mayGenerate : Bool} {source : Provenance}
    {id : Except IdDefect FlowId} (h : g.made o traceId mayGenerate = some (source, id)) :
    (∃ t, t ≠ "" ∧ traceId = some t ∧ source = .derived ∧ id = g.derive o.millis t) ∨
      (source = .generated ∧ id = g.generate o) := by
  simp only [made] at h
  split at h
  · rename_i t ht
    cases h
    obtain ⟨htrace, hp⟩ := Option.filter_eq_some_iff.1 ht
    exact Or.inl ⟨t, by simp_all, htrace, rfl, rfl⟩
  · split at h
    · cases h
      exact Or.inr ⟨rfl, rfl⟩
    · cases h

theorem carried_of_existing (h : g.resolve o r = .resolved x) (hx : x.provenance = .existing) :
    r.resource.get? g.settings.attributeName = some x.id.text ∨
      r.attributes.get? g.settings.attributeName = some x.id.text := by
  rcases resolve_cases h with hfirst | ⟨source, id, hmade, rfl⟩
  · obtain ⟨⟨source, raw⟩, hs, ho⟩ := Resolution.exists_of_firstCarried_eq_some hfirst
    obtain ⟨rfl, htext⟩ := Resolution.existing_of_ofCarried ho hx
    rw [htext]
    simpa [hints] using mem_carried_existing.1 hs
  · obtain rfl : source = .existing := hx
    rcases made_eq_some hmade with ⟨_, _, _, hsource, _⟩ | ⟨hsource, _⟩ <;> cases hsource

theorem derive_of_derived (h : g.resolve o r = .resolved x) (hx : x.provenance = .derived) :
    ∃ t, t ≠ "" ∧ traceOf r = some t ∧ g.derive o.millis t = .ok x.id := by
  rcases resolve_cases h with hfirst | ⟨source, id, hmade, rfl⟩
  · obtain ⟨s, hs, ho⟩ := Resolution.exists_of_firstCarried_eq_some hfirst
    rcases Resolution.provenance_of_ofCarried ho with hsource | hheader
    · exact absurd (hsource.symm.trans hx) (carried_ne_made hs).1
    · exact absurd (hheader.symm.trans hx) (by decide)
  · obtain rfl : source = .derived := hx
    rcases made_eq_some hmade with ⟨t, ht, htrace, -, hid⟩ | ⟨hsource, -⟩
    · exact ⟨t, ht, htrace, hid.symm⟩
    · cases hsource

theorem parse_error_of_not_resolved (h : ∀ x, g.resolve o r ≠ .resolved x)
    (hraw : r.resource.get? g.settings.attributeName = some raw ∨
      r.attributes.get? g.settings.attributeName = some raw) :
    ∃ d, FlowId.parse raw = .error d := by
  have hnone : Resolution.firstCarried (g.carried (g.hints r)) = none := by
    cases hfirst : Resolution.firstCarried (g.carried (g.hints r)) with
    | none => rfl
    | some x => exact absurd (by simp [resolve, resolveHints, hfirst]) (h x)
  have hmem : (.existing, raw) ∈ g.carried (g.hints r) :=
    mem_carried_existing.2 (by simpa [hints] using hraw)
  obtain ⟨d, hd⟩ := Resolution.error_of_firstCarried_eq_none hnone _ hmem
  exact Resolution.parse_error_of_ofCarried_error hd

end Registrar

end FlowCorrelation
