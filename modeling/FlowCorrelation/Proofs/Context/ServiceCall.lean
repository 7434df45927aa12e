import FlowCorrelation.Context.ServiceCall
import FlowCorrelation.Proofs.Table

namespace FlowCorrelation.ServiceCall

variable {K : Type} {spans : List SpanRecord} {byId : Dict SpanRecord} {s parent : SpanRecord}
  {a b id : String}

theorem mem_of_get?_spansById (h : (spansById spans).get? id = some parent) :
    parent ∈ spans ∧ parent.spanId = some id := by
  obtain ⟨x, hx, hpair⟩ := List.mem_filterMap.1 (Dict.mem_of_get?_ofList h)
  obtain ⟨y, hy, heq⟩ := Option.map_eq_some_iff.1 hpair
  cases heq
  exact ⟨hx, hy⟩

theorem exists_parent_of_caller? (h : caller? (spansById spans) s = some a) :
    ∃ parent ∈ spans, parent.spanId = s.parentSpanId ∧ parent.service = a ∧ a ≠ s.service := by
  obtain ⟨hmap, hne⟩ := Option.filter_eq_some_iff.1 h
  obtain ⟨parent, hparent, rfl⟩ := Option.map_eq_some_iff.1 hmap
  obtain ⟨id, hid, hget⟩ := Option.bind_eq_some_iff.1 hparent
  obtain ⟨hmem, hspanId⟩ := mem_of_get?_spansById hget
  exact ⟨parent, hmem, hspanId.trans hid.symm, rfl, of_decide_eq_true hne⟩

def Counted (d : Dict (Dict (CallTally K))) (a b : String) : Prop :=
  ∃ row, d.get? a = some row ∧ row.contains b

theorem counted_iff {d : Dict (Dict (CallTally K))} : Counted d a b ↔ (d.cell? a b).isSome := by
  simp [Counted, Dict.cell?, Dict.contains, Option.isSome_bind, Option.any_eq_true]

section

variable [Zero K] [Add K] [Scalar K] {d : Dict (Dict (CallTally K))}

theorem cell?_tallySpan : (tallySpan byId d s).cell? a b =
    if caller? byId s = some a ∧ s.service = b then some (addCall (d.cell? a b) s)
    else d.cell? a b := by
  unfold tallySpan
  cases caller? byId s with
  | none => simp
  | some source =>
    rw [Dict.cell?_update]
    simp only [Option.some.injEq]
    split
    case isTrue h => rw [h.1, h.2]
    case isFalse => rfl

theorem counted_tallySpan : Counted (tallySpan byId d s) a b ↔
    (caller? byId s = some a ∧ s.service = b) ∨ Counted d a b := by
  rw [counted_iff, cell?_tallySpan, counted_iff]
  split <;> simp [*]

theorem counted_foldl_tallySpan {l : List SpanRecord} :
    Counted (l.foldl (tallySpan byId) d) a b ↔
      (∃ s ∈ l, caller? byId s = some a ∧ s.service = b) ∨ Counted d a b := by
  induction l generalizing d with
  | nil => simp
  | cons s l ih =>
    rw [List.foldl_cons, ih, counted_tallySpan, List.exists_mem_cons_iff, or_left_comm, or_assoc]

end

section

variable [Zero K] [Add K] [Div K] [NatCast K] [Scalar K]

/-- The calls that spans show join the service of a span with that of its parent. -/
theorem exists_mem_ofSpans_iff : (∃ x ∈ (ofSpans spans : List (ServiceCall K)),
    x.source = a ∧ x.target = b) ↔
      ∃ s ∈ spans, caller? (spansById spans) s = some a ∧ s.service = b := by
  have hcounted : Counted (spans.foldl (tallySpan (spansById spans)) (∅ : Dict (Dict (CallTally K))))
      a b ↔ _ := counted_foldl_tallySpan
  rw [or_iff_left (by simp [Counted])] at hcounted
  rw [← hcounted, counted_iff, Option.isSome_iff_exists, ofSpans]
  simp only [Dict.mem_cells_iff (f := fun source e ↦ ofTally source e.1 e.2)]
  constructor
  · rintro ⟨x, ⟨source, target, t, ht, rfl⟩, rfl, rfl⟩
    exact ⟨t, ht⟩
  · rintro ⟨t, ht⟩
    exact ⟨_, ⟨a, b, t, ht, rfl⟩, rfl, rfl⟩

end

end FlowCorrelation.ServiceCall
