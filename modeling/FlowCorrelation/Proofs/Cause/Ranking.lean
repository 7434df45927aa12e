import FlowCorrelation.Proofs.Cause.Candidate
import FlowCorrelation.Proofs.Table
import Mathlib.Algebra.Field.Defs

namespace FlowCorrelation

/-- A merge sort leaves elements that may stand either way round in the order they had. -/
theorem pairwise_mergeSort_of_pairwise {α : Type} {le : α → α → Bool} {r : α → α → Prop} {l : List α}
    (htrans : ∀ a b c, le a b → le b c → le a c) (htotal : ∀ a b, le a b || le b a)
    (h : l.Pairwise r) : (l.mergeSort le).Pairwise (fun a b ↦ le a b ∧ (le b a → r a b)) := by
  -- numbered by their places, elements that may stand either way round go by these
  have hsorted := List.pairwise_mergeSort (List.zipIdxLE_trans htrans) (List.zipIdxLE_total htotal)
    l.zipIdx
  have hperm := List.mergeSort_perm l.zipIdx (List.zipIdxLE le)
  have hplaces : (l.zipIdx.map Prod.snd).Nodup := by
    rw [List.zipIdx_map_snd]
    exact List.nodup_range'
  have hne := List.pairwise_map.1 ((hperm.map Prod.snd).nodup_iff.2 hplaces)
  have hget (x : α × Nat) (hx : x ∈ l.zipIdx.mergeSort (List.zipIdxLE le)) :
      ∃ hlt : x.2 < l.length, l[x.2] = x.1 :=
    List.getElem?_eq_some_iff.1 (List.mk_mem_zipIdx_iff_getElem?.1 (hperm.mem_iff.1 hx))
  rw [← List.mergeSort_zipIdx, List.pairwise_map]
  refine (hsorted.and hne).imp_of_mem (fun {x y} hx hy ⟨hle, hne⟩ ↦ ?_)
  obtain ⟨hxlt, hx⟩ := hget x hx
  obtain ⟨hylt, hy⟩ := hget y hy
  unfold List.zipIdxLE at hle
  split at hle
  · refine ⟨‹_›, fun hback ↦ ?_⟩
    rw [if_pos hback] at hle
    rw [← hx, ← hy]
    exact List.pairwise_iff_getElem.1 h _ _ hxlt hylt (lt_of_le_of_ne (of_decide_eq_true hle) hne)
  · cases hle

def SeriesKey.Precedes (a b : SeriesKey) : Prop :=
  a.service < b.service ∨ a.service = b.service ∧ a.metric < b.metric

theorem SeriesKey.Precedes.ne {a b : SeriesKey} (h : a.Precedes b) : a ≠ b := by
  rintro rfl
  rcases h with h | ⟨-, h⟩ <;> exact lt_irrefl _ h

theorem Signals.pairwise_seriesKeys (s : Signals) : s.seriesKeys.Pairwise SeriesKey.Precedes := by
  have hcells := fun d : Dict NameSet ↦ d.pairwise_cells (fun row e ↦ SeriesKey.mk row e.1)
    (fun key ↦ (key.service, key.metric)) (fun _ _ ↦ rfl)
  simp only [seriesKeys, Dict.keys, List.map_map]
  exact (hcells _).imp Prod.Lex.toLex_lt_toLex.1

theorem Buckets.pairwise_treatments (b : Buckets) (s : Signals) (anomaly : AnomalySettings) :
    (b.treatments s anomaly).Pairwise (fun t u ↦ t.series.Precedes u.series) :=
  List.pairwise_map.2 s.pairwise_seriesKeys

/-- The series that makes a candidate. -/
def Candidate.series {K : Type} (c : Candidate K) : SeriesKey := ⟨c.service, c.metric⟩

/-- Whether a candidate comes before another, by confidence and, where this is equal, in order of service
and metric. -/
def Candidate.Precedes {K : Type} [LT K] (c d : Candidate K) : Prop :=
  d.confidence < c.confidence ∨ d.confidence = c.confidence ∧ c.series.Precedes d.series

namespace Estimate

variable {K : Type}

section

variable [Zero K] [One K] [Add K] [Sub K] [Mul K] [Div K] [Neg K] [NatCast K] [LT K] [DecidableLT K]
  [Scalar K] {g : ServiceGraph} {outcomes : List (Option K)} {treatments : List Treatment}

theorem series_eq_of_candidate? {t : Treatment} {c : Candidate K}
    (h : candidate? g outcomes treatments t = some c) : c.series = t.series := by
  obtain ⟨-, -, -, -, rfl⟩ := candidate?_eq_some_iff.1 h
  rfl

theorem pairwise_filterMap_candidate? {l : List Treatment}
    (h : l.Pairwise (fun t u ↦ t.series.Precedes u.series)) :
    (l.filterMap (candidate? g outcomes treatments)).Pairwise (fun c d ↦ c.series.Precedes d.series) := by
  refine h.filterMap _ (fun t u htu c hc d hd ↦ ?_)
  rwa [series_eq_of_candidate? hc, series_eq_of_candidate? hd]

theorem nodup_series (h : treatments.Pairwise (fun t u ↦ t.series.Precedes u.series)) :
    ((ofTreatments g outcomes treatments).candidates.map Candidate.series).Nodup := by
  rw [ofTreatments, ((List.mergeSort_perm _ _).map _).nodup_iff, List.Nodup, List.pairwise_map]
  exact (pairwise_filterMap_candidate? h).imp SeriesKey.Precedes.ne

end

variable [Field K] [LinearOrder K] [Scalar K] {g : ServiceGraph} {outcomes : List (Option K)}
  {treatments : List Treatment}

theorem pairwise_candidates (hrank : ∀ a b : K, Scalar.atMost a b ↔ a ≤ b)
    (h : treatments.Pairwise (fun t u ↦ t.series.Precedes u.series)) :
    (ofTreatments g outcomes treatments).candidates.Pairwise Candidate.Precedes := by
  have hle (c d : Candidate K) : notLessConfident c d ↔ d.confidence ≤ c.confidence := hrank _ _
  have htrans (a b c : Candidate K) (hab : notLessConfident a b) (hbc : notLessConfident b c) :
      notLessConfident a c := (hle a c).2 (((hle b c).1 hbc).trans ((hle a b).1 hab))
  have htotal (a b : Candidate K) : notLessConfident a b || notLessConfident b a := by
    rw [Bool.or_eq_true, hle, hle]
    exact le_total _ _
  refine (pairwise_mergeSort_of_pairwise htrans htotal (pairwise_filterMap_candidate? h)).imp ?_
  intro c d ⟨hcd, hback⟩
  exact ((hle c d).1 hcd).lt_or_eq.imp_right (fun heq ↦ ⟨heq, hback ((hle d c).2 heq.ge)⟩)

end Estimate

end FlowCorrelation
