import FlowCorrelation.Disk

namespace FlowCorrelation

namespace Disk

variable {d d' : Disk} {path : String} {p q : Place} {content before : ByteArray}

/-- The disk with the content as the only file at a place. -/
def put (d : Disk) (p : Place) (content : ByteArray) : Disk :=
  { d with files := (p, content) :: d.files.filter (·.1 ≠ p) }

theorem isDirectory_put (h : d.isDirectory q) (p : Place) (content : ByteArray) :
    (d.put p content).isDirectory q := by
  simp only [isDirectory, put, Bool.or_eq_true, List.any_eq_true, List.any_cons] at h ⊢
  rcases h with h | ⟨e, he, hq⟩
  · exact Or.inl h
  · by_cases hp : e.1 = p
    · exact Or.inr (Or.inl (hp ▸ hq))
    · exact Or.inr (Or.inr ⟨e, List.mem_filter.2 ⟨he, by simpa using hp⟩, hq⟩)

theorem isDirectory_put_self (h : d.isDirectory p = false) :
    (d.put p content).isDirectory p = false := by
  simp only [isDirectory, put, Bool.or_eq_false_iff, List.any_eq_false, List.any_cons] at h ⊢
  exact ⟨h.1, by simp, fun e he ↦ h.2 e (List.mem_filter.1 he).1⟩

theorem content?_put_self : (d.put p content).content? p = some content := by
  simp [content?, put]

theorem follow_put {names : List String} (h : d.follow q names = .ok p) (place : Place)
    (content : ByteArray) : (d.put place content).follow q names = .ok p := by
  induction names generalizing q with
  | nil => exact h
  | cons name names ih =>
    have hdir : d.isDirectory q := by
      rw [follow, entry?] at h
      by_cases hq : d.isDirectory q
      · exact hq
      · cases hc : d.content? q <;> simp [hq, hc] at h
    have hput := isDirectory_put hdir place content
    rw [follow, entry?, if_pos hdir] at h
    rw [follow, entry?, if_pos hput]
    simp only at h ⊢
    split at h
    · rw [if_pos ‹_›]
      exact ih h
    · rw [if_neg ‹_›]
      split at h
      · rw [if_pos ‹_›]
        exact ih h
      · rw [if_neg ‹_›]
        exact ih h

theorem locate_put (h : d.locate path = .ok p) (place : Place) (content : ByteArray) :
    (d.put place content).locate path = .ok p := by
  rw [locate] at h ⊢
  split at h
  · cases h
  · rw [if_neg ‹_›]
    exact follow_put h place content

theorem write_eq_ok_iff : d.write path content = .ok d' ↔
    ∃ p, d.locate path = .ok p ∧ d.isDirectory p = false ∧ d' = d.put p content := by
  cases h : d.locate path with
  | error f => simp [write, h, bind, Except.bind]
  | ok p =>
    cases hp : d.isDirectory p with
    | true => simp [write, h, hp, bind, Except.bind]
    | false =>
      have hwrite : d.write path content = .ok (d.put p content) := by
        simp [write, h, hp, put, bind, Except.bind]
      simp only [hwrite, hp, Except.ok.injEq, exists_eq_left', true_and]
      exact eq_comm

theorem find_eq_file_iff : d.find path = .ok (.file content) ↔
    ∃ p, d.locate path = .ok p ∧ d.isDirectory p = false ∧ d.content? p = some content := by
  cases h : d.locate path with
  | error f => simp [find, h, bind, Except.bind]
  | ok p =>
    cases hp : d.isDirectory p <;> cases hc : d.content? p <;>
      simp [find, entry?, h, hp, hc, bind, Except.bind]

theorem find_of_write (h : d.write path content = .ok d') : d'.find path = .ok (.file content) := by
  obtain ⟨p, hlocate, hp, rfl⟩ := write_eq_ok_iff.1 h
  exact find_eq_file_iff.2
    ⟨p, locate_put hlocate p content, isDirectory_put_self hp, content?_put_self⟩

theorem exists_write (h : d.find path = .ok (.file before)) (content : ByteArray) :
    ∃ d', d.write path content = .ok d' ∧ d'.find path = .ok (.file content) := by
  obtain ⟨p, hlocate, hp, -⟩ := find_eq_file_iff.1 h
  have hwrite : d.write path content = .ok (d.put p content) :=
    write_eq_ok_iff.2 ⟨p, hlocate, hp, rfl⟩
  exact ⟨d.put p content, hwrite, find_of_write hwrite⟩

theorem exists_append (h : d.find path = .ok (.file before)) (more : ByteArray) :
    ∃ d', (appendBytes path more : StateM Disk _).run d = (.ok (), d') ∧
      d'.find path = .ok (.file (before ++ more)) := by
  obtain ⟨d', hwrite, hfind⟩ := exists_write h (before ++ more)
  refine ⟨d', ?_, hfind⟩
  have hread : (readBytes path : StateM Disk _) d = (.ok before, d) := by
    have hrun : (MonadDisk.find path : StateM Disk _) d = (d.find path, d) := rfl
    simp only [readBytes, bind, StateT.bind, hrun, h]
    rfl
  have hchange : (MonadDisk.write path (before ++ more) : StateM Disk _) d = (.ok (), d') := by
    simp only [MonadDisk.write, change, hwrite]
  simp only [appendBytes, StateT.run, bind, StateT.bind, hread, hchange]

end Disk

end FlowCorrelation
