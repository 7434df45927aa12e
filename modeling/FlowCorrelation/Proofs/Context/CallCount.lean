import FlowCorrelation.Proofs.Context.ServiceCall
import FlowCorrelation.Proofs.Numeral.Exact
import Mathlib.Algebra.BigOperators.Group.List.Basic
import Mathlib.Algebra.Order.Field.Basic
import Mathlib.Data.List.Induction
import Mathlib.Data.List.Pairwise
import Mathlib.Data.List.Perm.Basic

namespace FlowCorrelation.ServiceCall

variable {K : Type} {spans spans' l l' : List SpanRecord} {byId : Dict SpanRecord} {s p q : SpanRecord}
  {a b id : String}

/-- The parent of a span: the last of the spans that have the id it names. -/
def parent? (spans : List SpanRecord) (s : SpanRecord) : Option SpanRecord :=
  s.parentSpanId.bind (fun id ↦ spans.reverse.find? (·.spanId = some id))

/-- The spans of `b` whose parent belongs to another service, `a`. -/
def callsBetween (spans : List SpanRecord) (a b : String) : List SpanRecord :=
  spans.filter (fun s ↦ s.service = b && a ≠ b && (parent? spans s).any (·.service = a))

theorem mem_callsBetween : s ∈ callsBetween spans a b ↔
    s ∈ spans ∧ s.service = b ∧ a ≠ b ∧ ∃ p, parent? spans s = some p ∧ p.service = a := by
  simp [callsBetween, Option.any_eq_true, and_assoc]

theorem callsBetween_ne_nil_iff : callsBetween spans a b ≠ [] ↔
    ∃ s ∈ spans, s.service = b ∧ a ≠ b ∧ ∃ p, parent? spans s = some p ∧ p.service = a := by
  rw [← List.isEmpty_eq_false_iff, List.isEmpty_eq_false_iff_exists_mem]
  simp only [mem_callsBetween]

theorem get?_spansById : (spansById spans).get? id = spans.reverse.find? (·.spanId = some id) := by
  induction spans using List.reverseRecOn with
  | nil => rfl
  | append_singleton spans s ih =>
    rw [List.reverse_concat, List.find?_cons, ← ih, spansById, Dict.ofList, List.filterMap_append,
      List.foldl_append]
    cases hs : s.spanId with
    | none => simp [hs, spansById, Dict.ofList]
    | some other =>
      by_cases hid : other = id <;> simp [hs, hid, Dict.get?_insert, spansById, Dict.ofList]

theorem caller?_eq_some_iff : caller? (spansById spans) s = some a ↔
    (∃ p, parent? spans s = some p ∧ p.service = a) ∧ a ≠ s.service := by
  have hparent : s.parentSpanId.bind (spansById spans).get? = parent? spans s :=
    congrArg _ (funext (fun _ ↦ get?_spansById))
  rw [caller?, hparent, Option.filter_eq_some_iff, Option.map_eq_some_iff, decide_eq_true_iff]

section

variable [Zero K] [Add K] [Scalar K] {d : Dict (Dict (CallTally K))}

theorem cell?_foldl_tallySpan : (l.foldl (tallySpan byId) d).cell? a b =
    (l.filter (fun s ↦ caller? byId s = some a ∧ s.service = b)).foldl
      (fun t s ↦ some (addCall t s)) (d.cell? a b) := by
  rw [List.foldl_filter]
  induction l generalizing d with
  | nil => rfl
  | cons s l ih =>
    rw [List.foldl_cons, ih, cell?_tallySpan, List.foldl_cons]
    simp only [decide_eq_true_eq]

end

def tallyOf [Zero K] [Add K] [Scalar K] (l : List SpanRecord) : CallTally K :=
  ⟨l.length, l.countP (·.isError), (l.map (fun s ↦ Scalar.ofFloat s.durationMs)).sum⟩

section

variable [AddMonoid K] [Scalar K]

theorem foldl_addCall (l : List SpanRecord) (s : SpanRecord) :
    (l ++ [s]).foldl (fun t s ↦ some (addCall t s)) none = some (tallyOf (K := K) (l ++ [s])) := by
  induction l using List.reverseRecOn generalizing s with
  | nil => cases herror : s.isError <;> simp [addCall, tallyOf, herror]
  | append_singleton l r ih =>
    rw [List.foldl_append, ih]
    cases herror : s.isError <;>
      simp [addCall, tallyOf, herror, List.countP_cons, Nat.add_comm 1, add_assoc]

/-- After the pass a cell holds what is to be said of the calls between its services, if any. -/
theorem cell?_tally : (spans.foldl (tallySpan (spansById spans)) ∅).cell? a b =
    if callsBetween spans a b = [] then none else some (tallyOf (K := K) (callsBetween spans a b)) := by
  have hcalls : spans.filter (fun s ↦ caller? (spansById spans) s = some a ∧ s.service = b) =
      callsBetween spans a b := by
    refine List.filter_congr (fun s _ ↦ ?_)
    rw [Bool.eq_iff_iff, decide_eq_true_iff, caller?_eq_some_iff]
    simp only [Bool.and_eq_true, decide_eq_true_eq, Option.any_eq_true]
    constructor
    · rintro ⟨⟨hparent, hne⟩, rfl⟩
      exact ⟨⟨rfl, hne⟩, hparent⟩
    · rintro ⟨⟨rfl, hne⟩, hparent⟩
      exact ⟨⟨hparent, hne⟩, rfl⟩
  rw [cell?_foldl_tallySpan, hcalls, Dict.cell?_empty]
  rcases (callsBetween spans a b).eq_nil_or_concat' with hnil | ⟨l, s, hconcat⟩
  · rw [hnil, if_pos rfl]
    rfl
  · rw [hconcat, if_neg (by simp), foldl_addCall]

end

section

variable [AddMonoid K] [Div K] [NatCast K] [Scalar K]

theorem mem_ofSpans_iff {x : ServiceCall K} : x ∈ (ofSpans spans : List (ServiceCall K)) ↔
    ∃ a b, callsBetween spans a b ≠ [] ∧ ofTally a b (tallyOf (callsBetween spans a b)) = x := by
  rw [ofSpans, Dict.mem_cells_iff (f := fun source e ↦ ofTally source e.1 e.2)]
  refine exists_congr (fun a ↦ exists_congr (fun b ↦ ?_))
  rw [cell?_tally]
  split
  case isTrue h => simp [h]
  case isFalse h => simp [h]

theorem pairwise_ofSpans : (ofSpans spans : List (ServiceCall K)).Pairwise
    (fun x y ↦ toLex (x.source, x.target) < toLex (y.source, y.target)) :=
  Dict.pairwise_cells (fun source e ↦ ofTally source e.1 e.2) (fun x ↦ (x.source, x.target))
    (fun _ _ ↦ rfl)

end

theorem find?_eq_of_perm {α : Type} {f : α → Bool} {l l' : List α} (hperm : l.Perm l')
    (hunique : ∀ x ∈ l, ∀ y ∈ l, f x → f y → x = y) : l.find? f = l'.find? f := by
  cases hfound : l.find? f with
  | none =>
    exact (List.find?_eq_none.2 (fun x hx ↦ List.find?_eq_none.1 hfound x (hperm.mem_iff.2 hx))).symm
  | some x =>
    have hx := List.mem_of_find?_eq_some hfound
    cases hfound' : l'.find? f with
    | none => exact absurd (List.find?_some hfound) (List.find?_eq_none.1 hfound' x (hperm.mem_iff.1 hx))
    | some y =>
      rw [hunique x hx y (hperm.mem_iff.2 (List.mem_of_find?_eq_some hfound'))
        (List.find?_some hfound) (List.find?_some hfound')]

theorem eq_of_spanId_eq (hids : (spans.filterMap (·.spanId)).Nodup) (hp : p ∈ spans) (hq : q ∈ spans)
    (hpid : p.spanId = some id) (hqid : q.spanId = some id) : p = q := by
  have hapart : spans.Pairwise (fun p q ↦ ∀ i, p.spanId = some i → ∀ j, q.spanId = some j → i ≠ j) :=
    List.pairwise_filterMap.1 hids
  have : Std.Symm (fun p q : SpanRecord ↦
      ∀ i, p.spanId = some i → ∀ j, q.spanId = some j → i ≠ j) :=
    ⟨fun _ _ h i hi j hj ↦ (h j hj i hi).symm⟩
  by_contra hne
  exact hapart.forall hp hq hne id hpid id hqid rfl

theorem callsBetween_perm (hids : (spans.filterMap (·.spanId)).Nodup) (hperm : spans.Perm spans') :
    (callsBetween spans a b).Perm (callsBetween spans' a b) := by
  have hparent (s : SpanRecord) : parent? spans s = parent? spans' s := by
    refine congrArg s.parentSpanId.bind (funext (fun id ↦ ?_))
    have hreverse := ((List.reverse_perm spans).trans hperm).trans (List.reverse_perm spans').symm
    exact find?_eq_of_perm hreverse (fun p hp q hq hpid hqid ↦
      eq_of_spanId_eq hids (List.mem_reverse.1 hp) (List.mem_reverse.1 hq) (of_decide_eq_true hpid)
        (of_decide_eq_true hqid))
  simp only [callsBetween, hparent]
  exact hperm.filter _

theorem tallyOf_perm [AddCommMonoid K] [Scalar K] (h : l.Perm l') :
    tallyOf (K := K) l = tallyOf l' := by
  rw [tallyOf, tallyOf, h.length_eq, h.countP_eq, (h.map _).sum_eq]

theorem ofSpans_perm [AddCommMonoid K] [Div K] [NatCast K] [Scalar K]
    (hids : (spans.filterMap (·.spanId)).Nodup) (hperm : spans.Perm spans') :
    (ofSpans spans' : List (ServiceCall K)) = ofSpans spans := by
  refine eq_of_pairwise_lt pairwise_ofSpans pairwise_ofSpans (fun x ↦ ?_)
  simp only [mem_ofSpans_iff]
  refine exists_congr (fun a ↦ exists_congr (fun b ↦ ?_))
  have hcalls : (callsBetween spans a b).Perm (callsBetween spans' a b) := callsBetween_perm hids hperm
  rw [tallyOf_perm hcalls, ne_eq, ne_eq, ← List.perm_nil, ← List.perm_nil]
  exact and_congr_left' (not_congr (hcalls.symm.congr_left []))

/-- The calls between services are exactly the spans whose parent belongs to another service. They come
in strictly ascending order of caller and callee; each says how many spans it stands for, which is at
least one, which share of them failed and how long they took in the mean. Where no two spans have one id
the order of the spans does not matter. -/
theorem ofSpans_counts_calls [Field K] [LinearOrder K] [IsStrictOrderedRing K] [Scalar K]
    (spans : List SpanRecord) :
    let calls : List (ServiceCall K) := ofSpans spans
    calls.Pairwise (fun x y ↦ toLex (x.source, x.target) < toLex (y.source, y.target)) ∧
    (∀ x ∈ calls, x.source ≠ x.target) ∧
    (∀ a b, (∃ x ∈ calls, x.source = a ∧ x.target = b) ↔
      ∃ s ∈ spans, s.service = b ∧ a ≠ b ∧ ∃ p, parent? spans s = some p ∧ p.service = a) ∧
    (∀ x ∈ calls,
      let l := callsBetween spans x.source x.target
      1 ≤ x.requests ∧ x.requests = l.length ∧
      x.errorRate = (l.countP (·.isError) : K) / (l.length : K) ∧ 0 ≤ x.errorRate ∧ x.errorRate ≤ 1 ∧
      x.meanLatencyMs = (l.map (fun s ↦ Scalar.ofFloat s.durationMs)).sum / (l.length : K)) ∧
    ((spans.filterMap (·.spanId)).Nodup → ∀ spans', spans.Perm spans' →
      (ofSpans spans' : List (ServiceCall K)) = calls) := by
  intro calls
  have hmem (x : ServiceCall K) (hx : x ∈ calls) : callsBetween spans x.source x.target ≠ [] ∧
      x = ofTally x.source x.target (tallyOf (callsBetween spans x.source x.target)) := by
    obtain ⟨a, b, hcalls, rfl⟩ := mem_ofSpans_iff.1 hx
    exact ⟨hcalls, rfl⟩
  refine ⟨pairwise_ofSpans, fun x hx ↦ ?_, fun a b ↦ ?_, fun x hx ↦ ?_, fun hids _ ↦ ofSpans_perm hids⟩
  · obtain ⟨s, -, -, hne, -⟩ := callsBetween_ne_nil_iff.1 (hmem x hx).1
    exact hne
  · rw [← callsBetween_ne_nil_iff]
    constructor
    · rintro ⟨x, hx, rfl, rfl⟩
      exact (hmem x hx).1
    · exact fun hcalls ↦ ⟨_, mem_ofSpans_iff.2 ⟨a, b, hcalls, rfl⟩, rfl, rfl⟩
  · obtain ⟨hcalls, hx⟩ := hmem x hx
    intro l
    rw [hx]
    have hpos : 0 < l.length := List.length_pos_of_ne_nil hcalls
    have herrors : (l.countP (·.isError) : K) ≤ (l.length : K) := Nat.cast_le.2 List.countP_le_length
    exact ⟨hpos, rfl, rfl, div_nonneg (Nat.cast_nonneg _) (Nat.cast_nonneg _),
      div_le_one_of_le₀ herrors (Nat.cast_nonneg _), rfl⟩

/-- Two calls of one service to another, one of which failed, are counted together, and the span that
calls nobody is not counted, in whatever order the spans come. -/
theorem calls_of_failed_retry :
    let root : SpanRecord :=
      { timestamp := ⟨0, 0⟩, service := "gateway", name := "GET", spanId := some "1" }
    let first : SpanRecord :=
      { timestamp := ⟨1, 0⟩, service := "orders", name := "reserve", status := .error
        spanId := some "2", parentSpanId := some "1" }
    let retry : SpanRecord := { first with spanId := some "3", status := .ok }
    let inner : SpanRecord := { first with spanId := some "4", parentSpanId := some "3" }
    let spans := [root, first, retry, inner]
    let calls : List (ServiceCall ℝ) := ofSpans spans
    (spans.filterMap (·.spanId)).Nodup ∧ ofSpans [inner, retry, first, root] = calls ∧
      ∃ x ∈ calls, x.source = "gateway" ∧ x.target = "orders" ∧ x.requests = 2 ∧
        x.errorRate = 1 / 2 := by
  intro root first retry inner spans calls
  have hids : (spans.filterMap (·.spanId)).Nodup := by decide
  obtain ⟨-, -, hcalls, hcount, horder⟩ := ofSpans_counts_calls (K := ℝ) spans
  obtain ⟨x, hx, hsource, htarget⟩ := (hcalls "gateway" "orders").2
    ⟨first, by simp [spans], rfl, by decide, root, rfl, rfl⟩
  obtain ⟨-, hrequests, herrors, -⟩ := hcount x hx
  have hlist : callsBetween spans x.source x.target = [first, retry] := by
    rw [hsource, htarget]
    rfl
  rw [hlist] at hrequests herrors
  refine ⟨hids, horder hids _ (List.reverse_perm spans).symm, x, hx, hsource, htarget, hrequests, ?_⟩
  have hfailed : [first, retry].countP (·.isError) = 1 := rfl
  rw [herrors, hfailed]
  norm_num

end FlowCorrelation.ServiceCall
