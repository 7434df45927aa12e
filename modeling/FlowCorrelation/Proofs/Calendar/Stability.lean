import FlowCorrelation.Calendar.Chronology

namespace FlowCorrelation

variable {α : Type} {time : α → Instant} {l l' : List α}

/-- Whether `l'` has the elements of `l` in order of time, simultaneous ones in the order of `l`. -/
structure Arranges (time : α → Instant) (l l' : List α) : Prop where
  perm : l'.Perm l
  ascending : l'.Pairwise (fun a b ↦ time a ≤ time b)
  stable : ∀ t, l'.filter (time · = t) = l.filter (time · = t)

theorem arranges_chronological (time : α → Instant) (l : List α) :
    Arranges time l (chronological time l) := by
  refine ⟨chronological_perm time l, pairwise_chronological time l, fun t ↦ ?_⟩
  have hsimultaneous : (l.filter (time · = t)).Pairwise (notAfter time · ·) := by
    refine List.pairwise_of_forall_mem_list (fun a ha b hb ↦ decide_eq_true ?_)
    have hat : time a = t := by simpa using (List.mem_filter.1 ha).2
    have hbt : time b = t := by simpa using (List.mem_filter.1 hb).2
    rw [hat, hbt]
    exact Instant.le_refl t
  -- Ascending sublists survive a merge sort, and there are no further elements of this time.
  have hsub : (l.filter (time · = t)).Sublist (chronological time l) :=
    List.sublist_mergeSort (notAfter_trans time) (notAfter_total time) hsimultaneous
      List.filter_sublist
  have hsub' := hsub.filter (time · = t)
  rw [List.filter_filter] at hsub'
  simp only [Bool.and_self] at hsub'
  exact (hsub'.eq_of_length ((chronological_perm time l).filter _).length_eq.symm).symm

theorem mem_iff_of_stable (h : ∀ t, l.filter (time · = t) = l'.filter (time · = t)) (a : α) :
    a ∈ l ↔ a ∈ l' := by
  have ha := congrArg (a ∈ ·) (h (time a))
  simpa using ha

theorem eq_of_ascending (hl : l.Pairwise (fun a b ↦ time a ≤ time b))
    (hl' : l'.Pairwise (fun a b ↦ time a ≤ time b))
    (h : ∀ t, l.filter (time · = t) = l'.filter (time · = t)) : l = l' := by
  induction l generalizing l' with
  | nil =>
    refine (List.eq_nil_iff_forall_not_mem.2 (fun a ha ↦ ?_)).symm
    exact List.not_mem_nil ((mem_iff_of_stable h a).2 ha)
  | cons a l ih =>
    cases l' with
    | nil => exact absurd ((mem_iff_of_stable h a).1 List.mem_cons_self) List.not_mem_nil
    | cons b l' =>
      obtain ⟨hfirst, hrest⟩ := List.pairwise_cons.1 hl
      obtain ⟨hfirst', hrest'⟩ := List.pairwise_cons.1 hl'
      have hab : time a ≤ time b := by
        rcases List.mem_cons.1 ((mem_iff_of_stable h b).2 List.mem_cons_self) with rfl | hb
        · exact Instant.le_refl _
        · exact hfirst b hb
      have hba : time b ≤ time a := by
        rcases List.mem_cons.1 ((mem_iff_of_stable h a).1 List.mem_cons_self) with rfl | ha
        · exact Instant.le_refl _
        · exact hfirst' a ha
      -- The heads are simultaneous, so each is the first of its list at that time.
      have htime : time b = time a := Instant.le_antisymm hba hab
      have hheads := h (time a)
      simp only [List.filter_cons, htime, decide_true, if_true] at hheads
      obtain ⟨rfl, -⟩ := List.cons.inj hheads
      have htails : ∀ t, l.filter (time · = t) = l'.filter (time · = t) := by
        intro t
        have ht := h t
        simp only [List.filter_cons] at ht
        split at ht
        · exact (List.cons.inj ht).2
        · exact ht
      rw [ih hrest hrest' htails]

theorem Arranges.eq_chronological (h : Arranges time l l') : l' = chronological time l := by
  refine eq_of_ascending h.ascending (pairwise_chronological time l) (fun t ↦ ?_)
  rw [h.stable, (arranges_chronological time l).stable]

theorem filter_chronological (p : α → Bool) :
    (chronological time l).filter p = chronological time (l.filter p) := by
  have h := arranges_chronological time l
  apply Arranges.eq_chronological
  refine ⟨h.perm.filter p, h.ascending.filter p, fun t ↦ ?_⟩
  simp only [List.filter_filter, Bool.and_comm _ (p _)]
  rw [← List.filter_filter, ← List.filter_filter, h.stable]

end FlowCorrelation
