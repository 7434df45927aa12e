import FlowCorrelation.Proofs.Enrichment.Outcome
import FlowCorrelation.Proofs.FlowId.Canonical
import Mathlib.Logic.Basic

namespace FlowCorrelation

/-- Whether repairing a text leaves an id. -/
def IsUsable (raw : String) : Prop := ∃ id, FlowId.sanitize raw = .ok id

/-- Whether the id was found rather than made. -/
def Outcome.isCarried : Outcome → Bool
  | .resolved x => x.provenance ≠ .derived && x.provenance ≠ .generated
  | .rejected _ | .unresolved => false

def Hides (read : String → Option String) (names : List String) : Prop :=
  ∃ first, names.findSome? read = some first ∧ ¬ IsUsable first ∧
    ∃ name ∈ names, ∃ raw, read name = some raw ∧ IsUsable raw

namespace Registrar

/-- The names under which headers may stand among attributes. -/
def headerNames (g : Registrar) : List String := g.settings.headers.flatMap headerSpellings

def bodyNames (g : Registrar) : List String := g.settings.attributeName :: bodyKeys

def bodyText? (body : Json.Members) (name : String) : Option String :=
  (body.get? name).bind Json.asText?

/-- The texts that a source offers as an id, whether they are tried or not. -/
inductive Offers (g : Registrar) (h : Hints) (raw : String) : Prop
  | own (m : Attributes) (map : m ∈ h.maps) (text : m.get? g.settings.attributeName = some raw)
  | baggage (header : String) (enabled : g.settings.fromBaggage) (given : h.baggage = some header)
    (text : Baggage.value? header g.settings.baggageKey = some raw)
  | header (m : Attributes) (name : String) (map : m ∈ h.maps) (known : name ∈ g.headerNames)
    (text : m.get? name = some raw)
  | body (m : Json.Members) (name : String) (given : h.body = some m) (known : name ∈ g.bodyNames)
    (text : bodyText? m name = some raw)

def NamesUsable (g : Registrar) (h : Hints) : Prop :=
  (∃ m ∈ h.maps, ∃ raw, m.get? g.settings.attributeName = some raw ∧ IsUsable raw) ∨
    (g.settings.fromBaggage ∧ ∃ header, h.baggage = some header ∧
      ∃ raw, Baggage.value? header g.settings.baggageKey = some raw ∧ IsUsable raw)

/-- Whether a usable header or member of the body stands behind an unusable one. -/
def Overlooks (g : Registrar) (h : Hints) : Prop :=
  (∃ m ∈ h.maps, Hides m.get? g.headerNames) ∨
    ∃ m, h.body = some m ∧ Hides (bodyText? m) g.bodyNames

end Registrar

variable {raw : String} {l : List (Provenance × String)} {names : List String}
  {read : String → Option String} {g : Registrar} {o : Occasion} {traceId : Option String} {h : Hints}

theorem isUsable_iff : IsUsable raw ↔ raw.toList.any isIdChar :=
  FlowId.exists_sanitize_iff

theorem exists_usable_iff : (∃ name ∈ names, ∃ raw, read name = some raw ∧ IsUsable raw) ↔
    (∃ raw, names.findSome? read = some raw ∧ IsUsable raw) ∨ Hides read names := by
  constructor
  · rintro ⟨name, hname, raw, hraw, husable⟩
    have hsome : (names.findSome? read).isSome :=
      List.findSome?_isSome_iff.2 ⟨name, hname, by simp [hraw]⟩
    obtain ⟨first, hfirst⟩ := Option.isSome_iff_exists.1 hsome
    by_cases hbest : IsUsable first
    · exact Or.inl ⟨first, hfirst, hbest⟩
    · exact Or.inr ⟨first, hfirst, hbest, name, hname, raw, hraw, husable⟩
  · rintro (⟨raw, hraw, husable⟩ | ⟨-, -, -, husable⟩)
    · obtain ⟨name, hname, hread⟩ := List.exists_of_findSome?_eq_some hraw
      exact ⟨name, hname, raw, hread, husable⟩
    · exact husable

namespace Resolution

theorem ofCarried_eq_error_iff (source : Provenance) :
    (∃ d, ofCarried source raw = .error d) ↔ ¬ IsUsable raw := by
  have haccept : (∃ d, acceptId raw .outside = .error d) ↔ ¬ IsUsable raw := by
    simp only [acceptId_outside_eq_error_iff, exists_and_left, exists_eq, and_true, isUsable_iff]
  rw [← haccept, ofCarried]
  cases acceptId raw .outside <;> simp [bind, Except.bind, pure, Except.pure]

theorem firstCarried_eq_none_iff : firstCarried l = none ↔ ∀ s ∈ l, ¬ IsUsable s.2 := by
  induction l with
  | nil => simp [firstCarried]
  | cons s l ih =>
    obtain ⟨source, raw⟩ := s
    rw [List.forall_mem_cons, ← ih, ← ofCarried_eq_error_iff source, firstCarried]
    cases ofCarried source raw <;> simp

end Resolution

namespace Registrar

theorem headerValue?_eq (m : Attributes) : g.headerValue? m = g.headerNames.findSome? m.get? := by
  rw [headerValue?, headerNames]
  induction g.settings.headers with
  | nil => rfl
  | cons header headers ih =>
    rw [List.flatMap_cons, List.findSome?_append, ← ih, List.findSome?_cons]
    cases (headerSpellings header).findSome? m.get? <;> rfl

theorem isCarried_resolveHints_iff :
    (g.resolveHints o traceId h).isCarried ↔ ∃ s ∈ g.carried h, IsUsable s.2 := by
  have hnone := Resolution.firstCarried_eq_none_iff (l := g.carried h)
  cases hfirst : Resolution.firstCarried (g.carried h) with
  | some x =>
    obtain ⟨s, hs, hx⟩ := Resolution.exists_of_firstCarried_eq_some hfirst
    have hmade : x.provenance ≠ .derived ∧ x.provenance ≠ .generated := by
      rcases Resolution.provenance_of_ofCarried hx with hsource | hheader
      · exact hsource ▸ carried_ne_made hs
      · simp [hheader]
    have husable : IsUsable s.2 := by
      refine Classical.not_not.1 (fun hunusable ↦ ?_)
      obtain ⟨d, hd⟩ := (Resolution.ofCarried_eq_error_iff s.1).2 hunusable
      cases hd.symm.trans hx
    simpa [resolveHints, hfirst, Outcome.isCarried, hmade] using ⟨s.1, s.2, hs, husable⟩
  | none =>
    have hunusable : ¬ ∃ s ∈ g.carried h, IsUsable s.2 := by simpa using hnone.1 hfirst
    refine iff_of_false ?_ hunusable
    cases hmade : g.made o traceId h.mayGenerate with
    | none => simp [resolveHints, hfirst, hmade, Outcome.isCarried]
    | some made =>
      obtain ⟨source, id⟩ := made
      have hsource : source = .derived ∨ source = .generated := by
        rcases made_eq_some hmade with ⟨-, -, -, hderived, -⟩ | ⟨hgenerated, -⟩
        · exact Or.inl hderived
        · exact Or.inr hgenerated
      cases id with
      | error d => simp [resolveHints, hfirst, hmade, stamped, Outcome.isCarried]
      | ok id => rcases hsource with rfl | rfl <;>
          simp [resolveHints, hfirst, hmade, stamped, Outcome.isCarried]

theorem exists_usable_carried_iff : (∃ s ∈ g.carried h, IsUsable s.2) ↔ g.NamesUsable h ∨
    (∃ m ∈ h.maps, ∃ raw, g.headerNames.findSome? m.get? = some raw ∧ IsUsable raw) ∨
      ∃ m, h.body = some m ∧
        ∃ raw, g.bodyNames.findSome? (bodyText? m) = some raw ∧ IsUsable raw := by
  have hbody (m : Json.Members) : g.bodyValue? m = g.bodyNames.findSome? (bodyText? m) := rfl
  simp only [carried, NamesUsable, List.mem_append, or_and_right, exists_or, or_assoc]
  refine or_congr ?_ (or_congr ?_ (or_congr ?_ ?_))
  · simp only [List.mem_map, List.mem_filterMap]
    grind
  · cases g.settings.fromBaggage with
    | false => simp
    | true =>
      simp only [if_true, List.mem_map, Option.mem_toList, Option.bind_eq_some_iff]
      grind
  · simp only [List.mem_map, List.mem_filterMap, headerValue?_eq]
    grind
  · simp only [List.mem_map, Option.mem_toList, Option.bind_eq_some_iff, hbody]
    grind

theorem exists_usable_offer_iff : (∃ raw, g.Offers h raw ∧ IsUsable raw) ↔ g.NamesUsable h ∨
    (∃ m ∈ h.maps, ∃ name ∈ g.headerNames, ∃ raw, m.get? name = some raw ∧ IsUsable raw) ∨
      ∃ m, h.body = some m ∧
        ∃ name ∈ g.bodyNames, ∃ raw, bodyText? m name = some raw ∧ IsUsable raw := by
  constructor
  · rintro ⟨raw, hoffer, husable⟩
    cases hoffer with
    | own m hm hraw => exact Or.inl (Or.inl ⟨m, hm, raw, hraw, husable⟩)
    | baggage header hon hheader hraw =>
      exact Or.inl (Or.inr ⟨hon, header, hheader, raw, hraw, husable⟩)
    | header m name hm hname hraw => exact Or.inr (Or.inl ⟨m, hm, name, hname, raw, hraw, husable⟩)
    | body m name hm hname hraw => exact Or.inr (Or.inr ⟨m, hm, name, hname, raw, hraw, husable⟩)
  · rintro ((⟨m, hm, raw, hraw, husable⟩ | ⟨hon, header, hheader, raw, hraw, husable⟩) |
      ⟨m, hm, name, hname, raw, hraw, husable⟩ | ⟨m, hm, name, hname, raw, hraw, husable⟩)
    · exact ⟨raw, .own m hm hraw, husable⟩
    · exact ⟨raw, .baggage header hon hheader hraw, husable⟩
    · exact ⟨raw, .header m name hm hname hraw, husable⟩
    · exact ⟨raw, .body m name hm hname hraw, husable⟩

/-- A usable text is offered if and only if the outcome is that of a carried text or a usable header
or member of the body is overlooked. So an id is made, or none is given, beside a usable text exactly
if nothing but such a text is usable. -/
theorem usable_offer_iff_carried_or_overlooked (g : Registrar) (o : Occasion)
    (traceId : Option String) (h : Hints) : (∃ raw, g.Offers h raw ∧ IsUsable raw) ↔
      (g.resolveHints o traceId h).isCarried ∨ g.Overlooks h := by
  have hheaders (m : Attributes) :
      (∃ name ∈ g.headerNames, ∃ raw, m.get? name = some raw ∧ IsUsable raw) ↔ _ := exists_usable_iff
  have hbody (m : Json.Members) :
      (∃ name ∈ g.bodyNames, ∃ raw, bodyText? m name = some raw ∧ IsUsable raw) ↔ _ := exists_usable_iff
  rw [isCarried_resolveHints_iff, exists_usable_carried_iff, exists_usable_offer_iff, Overlooks]
  simp only [hheaders, hbody, and_or_left, exists_or]
  rw [or_or_or_comm, ← or_assoc]

/-- An unusable header hides a usable one behind it in the same map. -/
theorem unresolved_beside_usable_header :
    let g : Registrar := {}
    let h : Hints :=
      { maps := [Dict.ofList [("X-Correlation-ID", "!!!"), ("X-Request-ID", "req-7")]] }
    g.Offers h "req-7" ∧ IsUsable "req-7" ∧ g.resolveHints ⟨0, []⟩ none h = .unresolved := by
  intro g h
  refine ⟨.header _ "X-Request-ID" List.mem_cons_self (by decide +kernel) rfl, ?_, by decide +kernel⟩
  exact isUsable_iff.2 (by decide)

end Registrar

end FlowCorrelation
