import FlowCorrelation.Command.Run
import FlowCorrelation.Proofs.Calendar.Extent
import FlowCorrelation.Proofs.FlowStore.Ledger

namespace FlowCorrelation

namespace Instant

/-- How many whole seconds the calendar reaches back; a leap second counts as the second after it. -/
def reach (t : Instant) : Int :=
  (if 1000000000 ≤ t.nanos then t.seconds + 1 else t.seconds) - firstSecond

variable {t : Instant}

theorem sub?_seconds_eq_none_iff (ht : t.InUnsignedYears) (n : Nat) :
    t.sub? (n * 1000000000) = none ↔ t.reach < n := by
  obtain ⟨hfirst, hlast, hnanos⟩ := inUnsignedYears_iff.1 ht
  have hback : ¬ 0 < -((n : Int) * 1000000000) := by omega
  rw [sub?, add?_eq_none_iff ht]
  simp only [CountInCalendar, countToward, nanoCount, reach, firstSecond, lastSecond, hback, and_false,
    if_false]
  split <;> omega

theorem reach_bounds (ht : t.InUnsignedYears) : 8272434009600 ≤ t.reach ∧ t.reach ≤ 8588003529600 := by
  obtain ⟨hfirst, hlast, -⟩ := inUnsignedYears_iff.1 ht
  simp only [reach, firstSecond]
  split <;> omega

end Instant

namespace FlowStore

variable {s t : FlowStore} {secs : Nat} {now cutoff : Instant}

theorem recordsOf_dropBefore (s : FlowStore) (cutoff : Instant) (kind : RecordKind) (id : FlowId) :
    (s.dropBefore cutoff).recordsOf kind id =
      (s.recordsOf kind id).filter (fun r ↦ !decide (r.timestamp < cutoff)) := by
  rw [recordsOf_eq, recordsOf_eq, kept_dropBefore, filter_chronological]
  rfl

theorem size_dropBefore (s : FlowStore) (cutoff : Instant) :
    s.size - (s.dropBefore cutoff).size = s.all.countP (·.timestamp < cutoff) := by
  have hsplit := List.length_eq_countP_add_countP (·.timestamp < cutoff) (l := s.all)
  rw [size_eq, size_eq, all_dropBefore, ← List.countP_eq_length_filter]
  simp only [Bool.not_eq_true, Bool.decide_eq_false] at hsplit
  omega

theorem purge?_withRetention_eq_none_iff (s : FlowStore) (secs : Nat) (h : now.InUnsignedYears) :
    (s.withRetention secs).purge? now = none ↔ now.reach < secs := by
  obtain ⟨hleast, hgreatest⟩ := Instant.reach_bounds h
  by_cases hzero : secs = 0
  · have hkept : (s.withRetention secs).purge? now = some (s.withRetention secs) := by
      simp only [purge?, withRetention, hzero, if_true]
    rw [hkept]
    constructor
    · intro hnone
      cases hnone
    · intro hlt
      omega
  · have hpurge : (s.withRetention secs).purge? now =
        (now.sub? ((min secs maxRetentionSecs : Nat) * 1000000000)).map
          (s.withRetention secs).dropBefore := by
      simp only [purge?, withRetention, hzero, if_false]
    -- What the retention is cut to lies beyond the calendar, so the cut does not change the answer.
    rw [hpurge, Option.map_eq_none_iff, Instant.sub?_seconds_eq_none_iff h, maxRetentionSecs]
    omega

/-- What a purge with a result leaves of a store, and how much it removes. -/
theorem purged_of_withRetention (h : (s.withRetention secs).purge? now = some t) :
    (∀ kind id, t.recordsOf kind id = (s.recordsOf kind id).filter
      (fun r ↦ !StoreCall.strikes (s.withRetention secs).retention r (.purge now))) ∧
    s.size - t.size =
      s.all.countP (StoreCall.strikes (s.withRetention secs).retention · (.purge now)) := by
  have hrecords (kind : RecordKind) (id : FlowId) :
      (s.withRetention secs).recordsOf kind id = s.recordsOf kind id := by
    cases kind <;> rfl
  cases hretention : (s.withRetention secs).retention with
  | none =>
    simp only [purge?, hretention] at h
    cases h
    refine ⟨fun kind id ↦ ?_, ?_⟩
    · rw [hrecords]
      exact (List.filter_eq_self.2 (fun _ _ ↦ rfl)).symm
    · exact (Nat.sub_self _).trans (List.countP_eq_zero.2 (fun _ _ ↦ Bool.false_ne_true)).symm
  | some d =>
    simp only [purge?, hretention] at h
    obtain ⟨cutoff, hcutoff, rfl⟩ := Option.map_eq_some_iff.1 h
    have hstrikes : (fun r ↦ StoreCall.strikes (some d) r (.purge now)) =
        fun r : Record ↦ decide (r.timestamp < cutoff) := by
      funext r
      simp [StoreCall.strikes, hcutoff]
    refine ⟨fun kind id ↦ ?_, ?_⟩
    · rw [recordsOf_dropBefore, hrecords]
      simp only [congrFun hstrikes]
    · rw [hstrikes]
      exact (s.withRetention secs).size_dropBefore cutoff

/-- In the years from 0 to 9999 a purge has no result exactly if the retention is longer than the
calendar reaches back, whatever the store holds. From 1970 on none is that is below 264,000 years, and
every one is that is above 273,000. A purge with a result removes the records that are older than the
retention and no others. -/
theorem purge_stalls_iff_beyond_calendar (s : FlowStore) (secs : Nat) (now : Instant)
    (h : now.InUnsignedYears) :
    ((s.withRetention secs).purge? now = none ↔ now.reach < secs) ∧
    (0 ≤ now.seconds → secs ≤ 8334601228800 → (s.withRetention secs).purge? now ≠ none) ∧
    (8588003529600 < secs → (s.withRetention secs).purge? now = none) ∧
    ∀ t, (s.withRetention secs).purge? now = some t →
      (∀ kind id, t.recordsOf kind id = (s.recordsOf kind id).filter
        (fun r ↦ !StoreCall.strikes (s.withRetention secs).retention r (.purge now))) ∧
      s.size - t.size =
        s.all.countP (StoreCall.strikes (s.withRetention secs).retention · (.purge now)) := by
  have hstalls := s.purge?_withRetention_eq_none_iff secs h
  refine ⟨hstalls, fun hsince hshort hnone ↦ ?_, fun hlong ↦ hstalls.2 ?_, fun t ↦
    purged_of_withRetention⟩
  · have hlt := hstalls.1 hnone
    simp only [Instant.reach, Instant.firstSecond] at hlt
    split at hlt <;> omega
  · have hgreatest := (Instant.reach_bounds h).2
    omega

/-- The longest retention that a purge of the first second of 1970 allows for, and one second more. -/
theorem purge_at_first_second_of_1970 :
    Instant.epoch.InUnsignedYears ∧
      (({} : FlowStore).withRetention 8334601228800).purge? Instant.epoch ≠ none ∧
      (({} : FlowStore).withRetention 8334601228801).purge? Instant.epoch = none := by
  have hyears : Instant.epoch.InUnsignedYears := by decide
  refine ⟨hyears, ?_, ?_⟩
  · exact (purge_stalls_iff_beyond_calendar {} 8334601228800 _ hyears).2.1 (by decide) (by decide)
  · exact (purge_stalls_iff_beyond_calendar {} 8334601228801 _ hyears).1.2 (by decide)

/-- Settings without defect can keep records so long that the store has no answer to a purge. -/
theorem purge_stalls_of_longest_retention :
    let settings : Settings := { store := { retentionSecs := 18446744073709551615 } }
    settings.defect? = none ∧ settings.store.retentionSecs < UInt64.size ∧
      (Command.Intake.ofSettings settings settings.store.retentionSecs).storing.purge? ⟨1767225600, 0⟩ =
        none := by
  decide +kernel

end FlowStore

end FlowCorrelation
