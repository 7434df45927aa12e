import FlowCorrelation.Proofs.Enrichment.Persistence
import FlowCorrelation.Proofs.FlowId.Grammar

namespace FlowCorrelation

variable {e e₁ e₂ : Enricher} {t₁ : Moment} {r : Record} {p : Passage} {x y : Resolution}
  {g : Registrar} {o o' : Occasion} {name k : String} {id : FlowId} {now : Instant}

namespace Enricher

theorem linkExemplar_eq_self {m : MetricPoint}
    (hactive : m.hasActiveSpan → m.exemplar.isSome)
    (hlinked : ∀ link, m.exemplar = some link → link.filteredAttributes.contains name) :
    linkExemplar name id m = m := by
  have hsame : (if m.hasActiveSpan then
      some (m.exemplar.getD ⟨m.traceId.getD "", m.spanId.getD "", ∅⟩) else m.exemplar) =
      m.exemplar := by
    split
    · rename_i h
      obtain ⟨link, hlink⟩ := Option.isSome_iff_exists.1 (hactive h)
      rw [hlink, Option.getD_some]
    · rfl
  simp only [linkExemplar, hsame]
  cases hlink : m.exemplar with
  | none => rw [Option.map_none, ← hlink]
  | some link => rw [Option.map_some, if_pos (hlinked link hlink), ← hlink]

theorem linkExemplar_linkExemplar (name : String) (id : FlowId) (m : MetricPoint) :
    linkExemplar name id (linkExemplar name id m) = linkExemplar name id m := by
  refine linkExemplar_eq_self (fun hactive ↦ ?_) (fun link hlink ↦ ?_)
  · have hactive' : m.hasActiveSpan = true := hactive
    simp [linkExemplar, hactive']
  · obtain ⟨link', -, rfl⟩ := Option.map_eq_some_iff.1 hlink
    split
    · assumption
    · simp [Dict.contains]

theorem linkExemplar_of_write {m : MetricPoint} (h : e.write x r = .metric m) :
    linkExemplar e.idAttribute x.id m = m := by
  obtain ⟨m', rfl⟩ : ∃ m', m = linkExemplar e.idAttribute x.id m' := by
    by_cases hx : x.provenance = .existing <;>
      by_cases hr : e.registrar.settings.toResource = true <;>
      simp only [write, hx, hr, if_true, if_false] at h <;> cases r <;> cases h <;> exact ⟨_, rfl⟩
  exact linkExemplar_linkExemplar _ _ m'

theorem write_eq_self
    (hattribute : y.provenance = .existing ∨ r.attributes.get? e.idAttribute = some y.id.text)
    (hresource : e.registrar.settings.toResource → r.resource.get? e.idAttribute = some y.id.text)
    (hlink : ∀ m, r = .metric m → linkExemplar e.idAttribute y.id m = m) : e.write y r = r := by
  have hfirst : (if y.provenance = .existing then r
      else r.withAttributes (r.attributes.insert e.idAttribute y.id.text)) = r := by
    split
    · rfl
    · rename_i hy
      rw [Dict.insert_eq_self (hattribute.resolve_left hy), Record.withAttributes_attributes]
  have hsecond : (if e.registrar.settings.toResource then
      r.withResource (r.resource.insert e.idAttribute y.id.text) else r) = r := by
    split
    · rename_i hto
      rw [Dict.insert_eq_self (hresource hto), Record.withResource_resource]
    · rfl
  simp only [write, hfirst, hsecond]
  cases r with
  | metric m => exact congrArg Record.metric (hlink m rfl)
  | span s => rfl
  | log l => rfl

theorem write_write (hid : y.id = x.id) (hy : y.provenance = .existing ∨
    (e.write x r).attributes.get? e.idAttribute = some x.id.text) :
    e.write y (e.write x r) = e.write x r := by
  refine write_eq_self (hid ▸ hy) (fun hto ↦ ?_) (fun m hm ↦ hid ▸ linkExemplar_of_write hm)
  rw [resource_write, if_pos hto, hid, Dict.get?_insert_self]

end Enricher

theorem Registrar.exists_made_of_made {traceId : Option String} {mayGenerate : Bool}
    {source : Provenance} (hmillis : o'.millis = o.millis) (ho : 4 ≤ o.random.length)
    (ho' : 4 ≤ o'.random.length) (h : g.made o traceId mayGenerate = some (source, .ok id)) :
    ∃ id', g.made o' traceId mayGenerate = some (source, .ok id') := by
  simp only [made] at h ⊢
  split at h
  · rw [hmillis]
    exact ⟨id, h⟩
  · split at h
    · rename_i hmay
      obtain ⟨hsource, hid⟩ := Prod.mk.inj (Option.some.inj h)
      obtain ⟨id', hid'⟩ := FlowId.compose_ok_of_ok (Digest.isSuffix_hex_take ho)
        (Digest.isSuffix_hex_take ho') hid
      refine ⟨id', ?_⟩
      rw [if_pos hmay, hsource, generate, hmillis, hid']
    · cases h

theorem Registrar.exists_resolved_of_resolved (hmillis : o'.millis = o.millis)
    (ho : 4 ≤ o.random.length) (ho' : 4 ≤ o'.random.length) (h : g.resolve o r = .resolved x) :
    ∃ y, g.resolve o' r = .resolved y := by
  cases hfirst : Resolution.firstCarried (g.carried (g.hints r)) with
  | some y => exact ⟨y, by simp [resolve, resolveHints, hfirst]⟩
  | none =>
    rcases resolve_cases h with hsome | ⟨source, id, hmade, -⟩
    · rw [hfirst] at hsome
      cases hsome
    · obtain ⟨id', hmade'⟩ := exists_made_of_made hmillis ho ho' hmade
      exact ⟨⟨id', source, false⟩, by simp [resolve, resolveHints, hfirst, hmade', stamped]⟩

namespace Enricher

theorem write_congr (h : e₂.registrar = e₁.registrar) (x : Resolution) (r : Record) :
    e₂.write x r = e₁.write x r := by
  simp only [write, idAttribute, h]

theorem stamp_output (hp : e₁.pass? t₁ r = some p) (hregistrar : e₂.registrar = e₁.registrar)
    (hmillis : o.millis = t₁.occasion.millis) (ht : 4 ≤ t₁.random.length)
    (ho : 4 ≤ o.random.length) :
    e₂.stamp p.output (e₂.registrar.resolve o p.output) = p.output := by
  obtain ⟨-, -, houtcome, houtput⟩ := pass?_spec hp
  rw [hregistrar]
  -- An id that was resolved is read back. Where none was, nothing was written, and none is resolved
  -- now, since that does not depend on the random bytes.
  by_cases hresolved : ∃ x, p.outcome = .resolved x
  · obtain ⟨x, hx⟩ := hresolved
    obtain ⟨y, hown, hid, hwritten⟩ := bears_output hp hx
    rw [Registrar.resolve_of_ownId? (g := e₁.registrar) hown o, stamp, write_congr hregistrar]
    rw [hx] at houtput
    rw [houtput] at hwritten ⊢
    exact write_write hid hwritten
  · have hsame : p.output = p.bounded := by
      rw [houtput]
      cases hx : p.outcome with
      | resolved x => exact absurd ⟨x, hx⟩ hresolved
      | rejected d => rfl
      | unresolved => rfl
    rw [hsame]
    cases hx : e₁.registrar.resolve o p.bounded with
    | resolved x =>
      obtain ⟨y, hy⟩ := Registrar.exists_resolved_of_resolved hmillis.symm ho ht hx
      exact absurd ⟨y, houtcome.trans hy⟩ hresolved
    | rejected d => rfl
    | unresolved => rfl

/-- A record that was processed goes through unchanged, unless it is relabelled. -/
theorem pass?_output (t₂ : Moment) (hp : e₁.pass? t₁ r = some p)
    (hregistrar : e₂.registrar = e₁.registrar) (hnow : t₂.now = t₁.now)
    (ht₁ : 4 ≤ t₁.random.length) (ht₂ : 4 ≤ t₂.random.length)
    (hspares : e₂.Spares e₂.idAttribute) (hopened : e₂.OpensBy t₂.now)
    (hsettled : e₂.Settled t₂.now p.output.attributes) :
    ∃ p', e₂.pass? t₂ p.output = some p' ∧ (p'.output = p.output ↔ ¬ e₂.Relabels p.output) := by
  obtain ⟨a, ha, hsame, hrelabelled⟩ := hsettled.bounding hopened
  refine ⟨_, by rw [pass?, ha, Option.map_some], fun heq hrelabels ↦ ?_, fun hrelabels ↦ ?_⟩
  · have hmethod := congrArg (fun r ↦ r.attributes.get? methodAttribute) heq
    simp only [get?_stamp_of_ne e₂ _ (hspares.unchanged hrelabels.1).1,
      Record.attributes_withAttributes, hrelabelled hrelabels, hrelabels.2.1] at hmethod
    exact absurd (Option.some.inj hmethod) (by decide)
  · rw [hsame hrelabels, Record.withAttributes_attributes]
    refine stamp_output hp hregistrar ?_ ht₁ ht₂
    simp only [Moment.occasion, hnow]

end Enricher

def Passage.DecidedBy (p : Passage) (g : Registrar) (now : Instant) : Prop :=
  ∃ (e : Enricher) (t : Moment), e.registrar = g ∧ t.now = now ∧ 4 ≤ t.random.length ∧
    e.pass? t p.input = some p

namespace Enricher

variable {random random' : Nat → List UInt8} {i : Nat} {batch out : List Record} {l : List Passage}

theorem Settled.process_go {a : Attributes} (h : e.Settled now a) (hopened : e.OpensBy now)
    (random : Nat → List UInt8) (i : Nat) (c : EnrichmentCounters) (batch : List Record) :
    (process.go now random i e c batch).enricher.Settled now a :=
  (process_go_induction (P := fun e ↦ e.OpensBy now ∧ e.Settled now a)
    (fun _ _ r he ↦ ⟨he.1.after _ r, he.2.after he.1 r⟩) ⟨hopened, h⟩ random i c batch).2

theorem settled_of_passages? (hopened : e.OpensBy now) (hspares : e.Spares e.idAttribute)
    (hrandom : ∀ i, 4 ≤ (random i).length) (c : EnrichmentCounters)
    (h : passages? now random i e batch = some l) (hp : p ∈ l) : p.DecidedBy e.registrar now ∧
      (process.go now random i e c batch).enricher.Settled now p.output.attributes := by
  induction batch generalizing i e c l with
  | nil =>
    obtain rfl : [] = l := Option.some.inj h
    cases hp
  | cons r rs ih =>
    simp only [passages?] at h
    split at h
    · cases h
    · rename_i q hq
      obtain ⟨l', hl', rfl⟩ := Option.map_eq_some_iff.1 h
      obtain ⟨c', henricher, -⟩ := process_go_cons_of_some hq c rs
      rw [henricher]
      rcases List.mem_cons.1 hp with rfl | hp
      · refine ⟨⟨e, _, rfl, rfl, hrandom i, (pass?_spec hq).1 ▸ hq⟩, ?_⟩
        have hsettled := settled_output hopened hspares hq
        exact hsettled.process_go (hopened.after _ r) random (i + 1) c' rs
      · exact ih (hopened.after _ r) (hspares.after _ r) c' hl' hp

theorem passages?_output (hopened : e.OpensBy now) (hspares : e.Spares e.idAttribute)
    (hrandom : ∀ i, 4 ≤ (random i).length)
    (hdecided : ∀ p ∈ l, p.DecidedBy e.registrar now)
    (hsettled : ∀ p ∈ l, e.Settled now p.output.attributes) (i : Nat) :
    ∃ l', passages? now random i e (l.map Passage.output) = some l' ∧
      (l'.map Passage.output = l.map Passage.output ↔ ∀ p ∈ l, ¬ e.Relabels p.output) := by
  induction l generalizing i e with
  | nil => exact ⟨[], rfl, by simp⟩
  | cons p l ih =>
    have hp := hsettled p List.mem_cons_self
    have hrest (q) (hq : q ∈ l) := hsettled q (List.mem_cons_of_mem p hq)
    obtain ⟨e₁, t₁, hregistrar, hnow, ht₁, hfirst⟩ := hdecided p List.mem_cons_self
    obtain ⟨p', hp', hsame⟩ := pass?_output ⟨now, random i⟩ hfirst hregistrar.symm hnow.symm ht₁
      (hrandom i) hspares hopened hp
    obtain ⟨l', hl', hsame'⟩ := ih (hopened.after ⟨now, random i⟩ p.output)
      (hspares.after ⟨now, random i⟩ p.output)
      (fun q hq ↦ hdecided q (List.mem_cons_of_mem p hq))
      (fun q hq ↦ (hrest q hq).after hopened p.output) (i + 1)
    refine ⟨p' :: l', by simp only [List.map_cons, passages?, hp', hl', Option.map_some], ?_⟩
    have hrelabels : (∀ q ∈ l, ¬ (e.after ⟨now, random i⟩ p.output).Relabels q.output) ↔
        ∀ q ∈ l, ¬ e.Relabels q.output :=
      forall₂_congr (fun q hq ↦ not_congr ((hrest q hq).relabels_after hopened p.output))
    rw [List.map_cons, List.map_cons, List.cons.injEq, hsame, hsame', hrelabels,
      List.forall_mem_cons]

/-- While the clock stands still, a batch that was processed comes through once more, and it comes
through unchanged exactly if none of its records is relabelled: their methods were not refused, or
methods are not normalized, or the guard does not know unknown methods. -/
theorem process_again_eq_iff {c c' : EnrichmentCounters} (hspares : e.Spares e.idAttribute)
    (hwindow : ∀ g, e.guard = some g → 0 ≤ g.window) (hnow : now.nanos < 2000000000)
    (hrandom : ∀ i, 4 ≤ (random i).length) (hrandom' : ∀ i, 4 ≤ (random' i).length)
    (hout : (e.process c now random batch).result = some out) :
    let e' := (e.process c now random batch).enricher
    ∃ again, (e'.process c' now random' out).result = some again ∧
      (again = out ↔ ∀ r ∈ out, ¬ e'.Relabels r) := by
  intro e'
  have hopened : e.OpensBy now := fun g hg ↦ Instant.opensBy_self (hwindow g hg) hnow
  rw [process_result] at hout
  obtain ⟨l, hl, rfl⟩ := Option.map_eq_some_iff.1 hout
  -- A batch changes nothing of the enricher but what its guard has seen.
  have hregistrar : e'.registrar = e.registrar :=
    process_go_induction (P := fun e' ↦ e'.registrar = e.registrar) (fun _ _ _ he ↦ he) rfl
      random 0 c batch
  have hopened' : e'.OpensBy now :=
    process_go_induction (P := fun e' ↦ e'.OpensBy now) (fun _ _ r he ↦ he.after _ r) hopened
      random 0 c batch
  have hspares' : e'.Spares e'.idAttribute := by
    rw [idAttribute, hregistrar]
    exact process_go_induction (P := fun e' ↦ e'.Spares e.idAttribute)
      (fun _ _ r he ↦ he.after _ r) hspares random 0 c batch
  have hfirst (p) (hp : p ∈ l) := settled_of_passages? hopened hspares hrandom c hl hp
  obtain ⟨l', hl', hsame⟩ := passages?_output hopened' hspares' hrandom'
    (fun p hp ↦ hregistrar ▸ (hfirst p hp).1) (fun p hp ↦ (hfirst p hp).2) 0
  refine ⟨l'.map Passage.output, by rw [process_result, hl', Option.map_some], hsame.trans ?_⟩
  simp

section Methods

/-- A span with a flow id and a method. -/
def methodSpan (method : String) : Record :=
  .span ⟨{ timestamp := ⟨0, 0⟩
           service := "s"
           attributes := Dict.ofList [("correlation_id", "a"), (methodAttribute, method)] },
    none, "n", 0, .unset, none⟩

/-- An enricher that admits one method. -/
def oneMethod : Enricher := .ofSettings {} { maxValues := 1, bounded := [methodAttribute] }

theorem spares_oneMethod : oneMethod.Spares oneMethod.idAttribute :=
  ⟨by decide +kernel, fun _ ↦ by decide +kernel, fun _ ↦ by decide +kernel⟩

/-- A method that was refused stays so, since unknown methods are not admitted either. -/
theorem process_again_eq_beside_known_method :
    let batch := [methodSpan "GET", methodSpan "PROPFIND"]
    let random : Nat → List UInt8 := fun _ ↦ [0, 1, 2, 3]
    let first := oneMethod.process {} ⟨0, 0⟩ random batch
    ∃ out, first.result = some out ∧
      out.map (·.attributes.get? methodAttribute) = [some "GET", some overflowValue] ∧
      (first.enricher.process {} ⟨0, 0⟩ random out).result = some out := by
  intro batch random first
  have hfirst : first.result.map (·.map (·.attributes.get? methodAttribute)) =
      some [some "GET", some overflowValue] := by decide +kernel
  have hunknown : first.enricher.guard.all (fun g ↦ !g.Knows methodAttribute "_OTHER") := by
    decide +kernel
  have hwindow (g) (hg : oneMethod.guard = some g) : 0 ≤ g.window := Option.some.inj hg ▸ by decide
  obtain ⟨out, hout, hmethods⟩ := Option.map_eq_some_iff.1 hfirst
  obtain ⟨again, hagain, hsame⟩ := @process_again_eq_iff oneMethod ⟨0, 0⟩ random random batch out
    {} {} spares_oneMethod hwindow (by decide) (fun _ ↦ by decide) (fun _ ↦ by decide) hout
  have heq : again = out := hsame.2 (fun r _ ⟨_, _, g, hg, hknown⟩ ↦ by
    have hall : first.enricher.guard = some g := hg
    simp [hall, hknown] at hunknown)
  exact ⟨out, hout, hmethods, heq ▸ hagain⟩

/-- Where an unknown method was admitted before another one was refused, the other is relabelled. -/
theorem process_again_ne_beside_unknown_method :
    let batch := [methodSpan "PROPFIND", methodSpan "GET"]
    let random : Nat → List UInt8 := fun _ ↦ [0, 1, 2, 3]
    let first := oneMethod.process {} ⟨0, 0⟩ random batch
    oneMethod.Spares oneMethod.idAttribute ∧ ∃ out again, first.result = some out ∧
      (first.enricher.process {} ⟨0, 0⟩ random out).result = some again ∧
      out.map (·.attributes.get? methodAttribute) = [some "_OTHER", some overflowValue] ∧
      again.map (·.attributes.get? methodAttribute) = [some "_OTHER", some "_OTHER"] ∧
      again ≠ out := by
  intro batch random first
  have hfirst : first.result.map (·.map (·.attributes.get? methodAttribute)) =
      some [some "_OTHER", some overflowValue] := by decide +kernel
  have hsecond : (first.enricher.process {} ⟨0, 0⟩ random (first.result.getD [])).result.map
      (·.map (·.attributes.get? methodAttribute)) = some [some "_OTHER", some "_OTHER"] := by
    decide +kernel
  obtain ⟨out, hout, hmethods⟩ := Option.map_eq_some_iff.1 hfirst
  rw [hout, Option.getD_some] at hsecond
  obtain ⟨again, hagain, hmethods'⟩ := Option.map_eq_some_iff.1 hsecond
  refine ⟨spares_oneMethod, out, again, hout, hagain, hmethods, hmethods', fun heq ↦ ?_⟩
  exact absurd (hmethods'.symm.trans (heq ▸ hmethods)) (by decide)

end Methods

end Enricher

end FlowCorrelation
