import FlowCorrelation.Proofs.Enrichment.Passage
import FlowCorrelation.Proofs.UrlTemplate
import FlowCorrelation.Proofs.ValueGuard.Bounding

namespace FlowCorrelation.Enricher

variable {e : Enricher} {t : Moment} {r : Record} {p : Passage} {g : ValueGuard} {now : Instant}
  {a a' : Attributes} {name k v : String}

/-- Whether values of the attribute are neither dropped nor normalized nor bounded. -/
structure Spares (e : Enricher) (name : String) : Prop where
  kept : e.drops name = false
  unchanged : e.values.normalizeUrls → name ≠ methodAttribute ∧ name ∉ urlAttributes
  unbounded : e.guard.isSome → name ∉ e.values.bounded

def normalForm (e : Enricher) (name value : String) : String :=
  if e.values.normalizeUrls then
    if name = methodAttribute then normalizeMethod value
    else if name ∈ urlAttributes then normalizeUrl value
    else value
  else value

theorem get?_dropAttributes (e : Enricher) (a : Attributes) (k : String) :
    (e.dropAttributes a).get? k = if e.drops k then none else a.get? k := by
  rw [dropAttributes, Dict.get?_filter]
  cases hv : a.get? k <;> cases hk : e.drops k <;> simp [Option.filter]

theorem get?_change (f : String → String) (name : String) (a : Attributes) (k : String) :
    (change f name a).get? k = (a.get? k).map (fun v ↦ if k = name then f v else v) := by
  unfold change
  by_cases hk : name = k
  · subst hk
    cases hv : a.get? name <;> simp [hv]
  · cases hv : a.get? name <;> simp [Dict.get?_insert_of_ne _ hk, Ne.symm hk]

theorem get?_foldl_change (f : String → String) {names : List String} (h : names.Nodup)
    (a : Attributes) (k : String) : (names.foldl (fun a name ↦ change f name a) a).get? k =
      (a.get? k).map (fun v ↦ if k ∈ names then f v else v) := by
  induction names generalizing a with
  | nil => simp
  | cons name names ih =>
    obtain ⟨hname, hrest⟩ := List.nodup_cons.1 h
    rw [List.foldl_cons, ih hrest, get?_change, Option.map_map]
    refine Option.map_congr (fun v _ ↦ ?_)
    by_cases hk : k = name
    · subst hk
      simp [hname]
    · simp [hk]

theorem get?_normalize (e : Enricher) (a : Attributes) (k : String) :
    (e.normalize a).get? k = (a.get? k).map (e.normalForm k) := by
  unfold normalize
  split
  · rename_i hnormalize
    have hmethod : methodAttribute ∉ urlAttributes := by decide
    rw [get?_foldl_change normalizeUrl (by decide), get?_change, Option.map_map]
    refine Option.map_congr (fun v _ ↦ ?_)
    by_cases hk : k = methodAttribute
    · subst hk
      simp [normalForm, hnormalize, hmethod]
    · simp [normalForm, hnormalize, hk]
  · rename_i hnormalize
    have hid : e.normalForm k = id := by
      funext v
      simp [normalForm, hnormalize]
    rw [hid, Option.map_id, id]

theorem normalForm_normalForm (e : Enricher) (name value : String) :
    e.normalForm name (e.normalForm name value) = e.normalForm name value := by
  unfold normalForm
  repeat' split
  · exact normalizeMethod_normalizeMethod value
  · exact normalizeUrl_normalizeUrl value
  · rfl
  · rfl

theorem Spares.normalForm_eq (h : e.Spares name) (value : String) :
    e.normalForm name value = value := by
  unfold normalForm
  split
  · rename_i hnormalize
    obtain ⟨hmethod, hurl⟩ := h.unchanged hnormalize
    rw [if_neg hmethod, if_neg hurl]
  · rfl

theorem normalForm_overflowValue (e : Enricher) (name : String) : e.normalForm name overflowValue =
    if e.values.normalizeUrls ∧ name = methodAttribute then "_OTHER" else overflowValue := by
  have hmethod : normalizeMethod overflowValue = "_OTHER" := by decide +kernel
  have hurl : normalizeUrl overflowValue = overflowValue := by decide +kernel
  unfold normalForm
  by_cases hnormalize : e.values.normalizeUrls <;> by_cases hname : name = methodAttribute <;>
    simp [hnormalize, hname, hmethod, hurl]

theorem bounding_of_unguarded (h : e.guard = none) (t : Moment) (r : Record) :
    (e.bounding t r).1 = none ∧
      (e.bounding t r).2.1 = some (e.normalize (e.dropAttributes r.attributes)) := by
  simp [bounding, bound, h]

theorem bounding_of_guarded (h : e.guard = some g) (t : Moment) (r : Record) :
    let b := g.bound t.now r.envelope.service e.values.bounded
      (e.normalize (e.dropAttributes r.attributes))
    (e.bounding t r).1 = some b.guard ∧ (e.bounding t r).2.1 = b.attributes := by
  simp [bounding, bound, h]

theorem guard_after (e : Enricher) (t : Moment) (r : Record) :
    (e.after t r).guard = e.guard.map (fun g ↦ (g.bound t.now r.envelope.service e.values.bounded
      (e.normalize (e.dropAttributes r.attributes))).guard) := by
  cases hguard : e.guard with
  | none => exact (bounding_of_unguarded hguard t r).1
  | some g => exact (bounding_of_guarded hguard t r).1

theorem get?_prepared (e : Enricher) (a : Attributes) (k : String) :
    (e.normalize (e.dropAttributes a)).get? k =
      if e.drops k then none else (a.get? k).map (e.normalForm k) := by
  rw [get?_normalize, get?_dropAttributes]
  split <;> rfl

theorem get?_bounding_cases (h : (e.bounding t r).2.1 = some a) (name : String) :
    let prepared := (e.normalize (e.dropAttributes r.attributes)).get? name
    a.get? name = prepared ∨ (e.guard.isSome ∧ name ∈ e.values.bounded ∧ prepared.isSome ∧
      a.get? name = some overflowValue) := by
  intro prepared
  cases hguard : e.guard with
  | none =>
    obtain rfl := Option.some.inj ((bounding_of_unguarded hguard t r).2.symm.trans h)
    exact Or.inl rfl
  | some g =>
    have hbound := (bounding_of_guarded hguard t r).2.symm.trans h
    rcases ValueGuard.get?_bound_cases hbound name with hsame | hreplaced
    · exact Or.inl hsame
    · exact Or.inr ⟨rfl, hreplaced⟩

theorem Spares.get?_bounding (hname : e.Spares name) (h : (e.bounding t r).2.1 = some a) :
    a.get? name = r.attributes.get? name := by
  rcases get?_bounding_cases h name with hsame | ⟨hguard, hbounded, -⟩
  · rw [hsame, get?_prepared, hname.kept, funext hname.normalForm_eq]
    exact Option.map_id_apply
  · exact absurd hbounded (hname.unbounded hguard)

theorem get?_bounding_of_absent (hk : r.attributes.get? k = none)
    (h : (e.bounding t r).2.1 = some a) : a.get? k = none := by
  have hprepared : (e.normalize (e.dropAttributes r.attributes)).get? k = none := by
    rw [get?_prepared, hk]
    split <;> rfl
  rcases get?_bounding_cases h k with hsame | ⟨-, -, hpresent, -⟩
  · exact hsame.trans hprepared
  · simp [hprepared] at hpresent

theorem sub?_eq_none_of_pass? (h : e.pass? t r = none) :
    ∃ g, e.guard = some g ∧ t.now.sub? g.window = none := by
  have hnone : (e.bounding t r).2.1 = none := Option.map_eq_none_iff.1 h
  cases hguard : e.guard with
  | none => exact absurd ((bounding_of_unguarded hguard t r).2.symm.trans hnone) (by simp)
  | some g =>
    exact ⟨g, rfl, ValueGuard.sub?_eq_none_of_bound
      ((bounding_of_guarded hguard t r).2.symm.trans hnone)⟩

structure Settled (e : Enricher) (now : Instant) (a : Attributes) : Prop where
  kept : ∀ k v, a.get? k = some v → e.drops k = false
  normal : ∀ k v, a.get? k = some v → e.normalForm k v = v ∨
    v = overflowValue ∧ ∃ g, e.guard = some g ∧ k ∈ e.values.bounded ∧ g.Closed now k
  bounded : ∀ g, e.guard = some g → ∀ k ∈ e.values.bounded, ∀ v, a.get? k = some v →
    v = overflowValue ∨ 0 < g.limitFor k ∧ g.Remembers now k v

def OpensBy (e : Enricher) (now : Instant) : Prop :=
  ∀ g, e.guard = some g → Instant.OpensBy g.window now now

theorem of_get?_prepared (h : (e.normalize (e.dropAttributes a)).get? k = some v) :
    e.drops k = false ∧ e.normalForm k v = v := by
  rw [get?_prepared] at h
  split at h
  · cases h
  · rename_i hdrops
    obtain ⟨v', -, rfl⟩ := Option.map_eq_some_iff.1 h
    exact ⟨by simpa using hdrops, e.normalForm_normalForm k v'⟩

theorem settled_of_bounding (hopened : e.OpensBy t.now) (h : (e.bounding t r).2.1 = some a) :
    (e.after t r).Settled t.now a := by
  cases hguard : e.guard with
  | none =>
    obtain ⟨hnone, hattributes⟩ := bounding_of_unguarded hguard t r
    obtain rfl := Option.some.inj (hattributes.symm.trans h)
    refine ⟨fun k v hv ↦ (of_get?_prepared hv).1, fun k v hv ↦ Or.inl (of_get?_prepared hv).2,
      fun g hg ↦ ?_⟩
    exact absurd (hnone.symm.trans hg) (by simp)
  | some g =>
    obtain ⟨hsome, hattributes⟩ := bounding_of_guarded hguard t r
    have hget := ValueGuard.get?_bound (hopened g hguard) (Instant.le_refl t.now)
      (hattributes.symm.trans h)
    have hlimit := (g.sameRules_bound t.now r.envelope.service e.values.bounded
      (e.normalize (e.dropAttributes r.attributes))).2
    refine ⟨fun k v hv ↦ ?_, fun k v hv ↦ ?_, fun g' hg' k hk v hv ↦ ?_⟩
    · rcases hget k with ⟨hsame, -⟩ | ⟨-, ⟨v', hv', -⟩, -, -⟩
      · exact (of_get?_prepared (hsame.symm.trans hv)).1
      · exact (of_get?_prepared hv').1
    · rcases hget k with ⟨hsame, -⟩ | ⟨hk, -, hreplaced, hclosed⟩
      · exact Or.inl (of_get?_prepared (hsame.symm.trans hv)).2
      · exact Or.inr ⟨Option.some.inj (hv.symm.trans hreplaced), _, hsome, hk, hclosed⟩
    · obtain rfl := Option.some.inj (hsome.symm.trans hg')
      rcases hget k with ⟨hsame, hkept⟩ | ⟨-, -, hreplaced, -⟩
      · by_cases hv' : v = overflowValue
        · exact Or.inl hv'
        · exact Or.inr (hlimit ▸ hkept hk v (hsame.symm.trans hv) hv')
      · exact Or.inl (Option.some.inj (hv.symm.trans hreplaced))

theorem Settled.insert (h : e.Settled now a) (hname : e.Spares name) (value : String) :
    e.Settled now (a.insert name value) := by
  have hget {k v} (hv : (a.insert name value).get? k = some v) : k = name ∨ a.get? k = some v := by
    rw [Dict.get?_insert] at hv
    split at hv
    · exact Or.inl (by simp [*])
    · exact Or.inr hv
  refine ⟨fun k v hv ↦ ?_, fun k v hv ↦ ?_, fun g hg k hk v hv ↦ ?_⟩
  · rcases hget hv with rfl | hv
    · exact hname.kept
    · exact h.kept k v hv
  · rcases hget hv with rfl | hv
    · exact Or.inl (hname.normalForm_eq v)
    · exact h.normal k v hv
  · rcases hget hv with rfl | hv
    · exact absurd hk (hname.unbounded (by simp [hg]))
    · exact h.bounded g hg k hk v hv

theorem Spares.after (h : e.Spares name) (t : Moment) (r : Record) : (e.after t r).Spares name :=
  ⟨h.kept, h.unchanged, fun hguard ↦ h.unbounded (by simpa [guard_after] using hguard)⟩

theorem settled_output (hopened : e.OpensBy t.now) (hspares : e.Spares e.idAttribute)
    (hp : e.pass? t r = some p) : (e.after t r).Settled t.now p.output.attributes := by
  obtain ⟨a, ha, rfl⟩ := Option.map_eq_some_iff.1 hp
  have hsettled := settled_of_bounding hopened ha
  dsimp only
  cases e.registrar.resolve t.occasion (r.withAttributes a) with
  | resolved x =>
    rw [stamp, attributes_write, Record.attributes_withAttributes]
    split
    · exact hsettled
    · exact hsettled.insert (hspares.after t r) x.id.text
  | rejected d => simpa only [stamp, Record.attributes_withAttributes] using hsettled
  | unresolved => simpa only [stamp, Record.attributes_withAttributes] using hsettled

/-- While the clock stands still, what is settled stays settled whatever else comes through. -/
theorem Settled.after (h : e.Settled t.now a) (hopened : e.OpensBy t.now) (r : Record) :
    (e.after t r).Settled t.now a := by
  refine ⟨h.kept, fun k v hv ↦ ?_, fun g' hg' k hk v hv ↦ ?_⟩
  · refine (h.normal k v hv).imp_right (fun ⟨hv', g, hg, hk, hclosed⟩ ↦ ?_)
    have hguard := e.guard_after t r
    rw [hg] at hguard
    exact ⟨hv', _, hguard, hk, hclosed.bound (hopened g hg) _ _ _⟩
  · rw [guard_after] at hg'
    obtain ⟨g, hg, rfl⟩ := Option.map_eq_some_iff.1 hg'
    refine (h.bounded g hg k hk v hv).imp_right (fun ⟨hpos, hseen⟩ ↦ ?_)
    rw [(g.sameRules_bound _ _ _ _).2]
    exact ⟨hpos, hseen.bound (hopened g hg) (Instant.le_refl _) _ _ _⟩

theorem OpensBy.after (h : e.OpensBy now) (t : Moment) (r : Record) :
    (e.after t r).OpensBy now := by
  intro g' hg'
  rw [guard_after] at hg'
  obtain ⟨g, hg, rfl⟩ := Option.map_eq_some_iff.1 hg'
  rw [(g.sameRules_bound _ _ _ _).1]
  exact h g hg

/-- Whether the method of the record was refused, and in normal form it is admitted. -/
def Relabels (e : Enricher) (r : Record) : Prop :=
  e.values.normalizeUrls ∧ r.attributes.get? methodAttribute = some overflowValue ∧
    ∃ g, e.guard = some g ∧ g.Knows methodAttribute "_OTHER"

theorem Settled.relabels_after (h : e.Settled t.now r.attributes) (hopened : e.OpensBy t.now)
    (r' : Record) : (e.after t r').Relabels r ↔ e.Relabels r := by
  unfold Relabels
  rw [guard_after]
  refine and_congr_right (fun hnormalize ↦ and_congr_right (fun hmethod ↦ ?_))
  obtain hsame | ⟨-, g, hg, -, hclosed⟩ := h.normal methodAttribute overflowValue hmethod
  · rw [normalForm_overflowValue, if_pos ⟨hnormalize, rfl⟩] at hsame
    exact absurd hsame (by decide)
  · -- The attribute was closed when the method was refused, so the guard learns no more of it.
    simp only [hg, Option.map_some, Option.some.injEq, exists_eq_left']
    exact (ValueGuard.Settled.bound (Or.inr hclosed) (hopened g hg) _ _ _).2

theorem Settled.get?_prepared (h : e.Settled now a) (k : String) :
    (e.normalize (e.dropAttributes a)).get? k = (a.get? k).map (e.normalForm k) := by
  rw [Enricher.get?_prepared]
  cases hv : a.get? k with
  | none => simp
  | some v => simp [h.kept k v hv]

theorem Settled.settled_prepared (h : e.Settled now a) (hg : e.guard = some g)
    (hk : k ∈ e.values.bounded) (hv : (e.normalize (e.dropAttributes a)).get? k = some v)
    (hne : v ≠ overflowValue) : g.Settled now k v := by
  rw [h.get?_prepared] at hv
  obtain ⟨v', hv', rfl⟩ := Option.map_eq_some_iff.1 hv
  rcases h.normal k v' hv' with hsame | ⟨-, g', hg', -, hclosed⟩
  · rw [hsame] at hne ⊢
    exact Or.inl ((h.bounded g hg k hk v' hv').resolve_left hne)
  · obtain rfl := Option.some.inj (hg.symm.trans hg')
    exact Or.inr hclosed

theorem Settled.revised_normalForm (h : e.Settled now r.attributes) (hg : e.guard = some g)
    (hrelabels : ¬ e.Relabels r) (hv : r.attributes.get? k = some v) :
    g.revised e.values.bounded k (e.normalForm k v) = v := by
  by_cases hoverflow : v = overflowValue
  · -- The overflow value stays, unless it is a method whose normal form is admitted.
    subst hoverflow
    rw [normalForm_overflowValue]
    split
    · rename_i hmethod
      obtain ⟨hnormalize, rfl⟩ := hmethod
      have hunknown : ¬ g.Knows methodAttribute "_OTHER" := fun hknown ↦
        hrelabels ⟨hnormalize, hv, g, hg, hknown⟩
      obtain hsame | ⟨-, _, -, hk, -⟩ := h.normal methodAttribute overflowValue hv
      · rw [normalForm_overflowValue, if_pos ⟨hnormalize, rfl⟩] at hsame
        exact absurd hsame (by decide)
      · exact if_pos ⟨hk, hunknown⟩
    · exact g.revised_overflowValue _ k
  · rw [(h.normal k v hv).resolve_right (fun hor ↦ hoverflow hor.1)]
    refine if_neg (fun ⟨hk, hunknown⟩ ↦ hunknown ?_)
    obtain ⟨hpos, hseen⟩ := (h.bounded g hg k hk v hv).resolve_left hoverflow
    exact ⟨hpos, hseen.contains⟩

/-- Settled attributes go through the enricher unchanged, but for a method that is relabelled. -/
theorem Settled.bounding (h : e.Settled t.now r.attributes) (hopened : e.OpensBy t.now) :
    ∃ a, (e.bounding t r).2.1 = some a ∧ (¬ e.Relabels r → a = r.attributes) ∧
      (e.Relabels r → a.get? methodAttribute = some "_OTHER") := by
  cases hguard : e.guard with
  | none =>
    refine ⟨_, (bounding_of_unguarded hguard t r).2, fun _ ↦ Dict.ext_get? (fun k ↦ ?_),
      fun ⟨_, _, g, hg, _⟩ ↦ absurd (hguard.symm.trans hg) (by simp)⟩
    rw [h.get?_prepared]
    cases hv : r.attributes.get? k with
    | none => rfl
    | some v =>
      rcases h.normal k v hv with hsame | ⟨-, g, hg, -⟩
      · rw [Option.map_some, hsame]
      · exact absurd (hguard.symm.trans hg) (by simp)
  | some g =>
    obtain ⟨a, ha, hget⟩ := ValueGuard.get?_bound_of_settled (hopened g hguard) r.envelope.service
      (fun k hk v hv hne ↦ h.settled_prepared hguard hk hv hne)
    refine ⟨a, (bounding_of_guarded hguard t r).2.trans ha,
      fun hrelabels ↦ Dict.ext_get? (fun k ↦ ?_), fun ⟨hnormalize, hmethod, g', hg', hknown⟩ ↦ ?_⟩
    · rw [hget, h.get?_prepared]
      cases hv : r.attributes.get? k with
      | none => rfl
      | some v =>
        rw [Option.map_some, Option.map_some, h.revised_normalForm hguard hrelabels hv]
    · obtain rfl := Option.some.inj (hguard.symm.trans hg')
      rw [hget, h.get?_prepared, hmethod, Option.map_some, Option.map_some,
        normalForm_overflowValue, if_pos ⟨hnormalize, rfl⟩, ValueGuard.revised_of_knows hknown]

end FlowCorrelation.Enricher
