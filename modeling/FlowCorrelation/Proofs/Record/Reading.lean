import FlowCorrelation.Record.File

namespace FlowCorrelation

/-- The lines in the bytes of a file. -/
def fileLines (content : ByteArray) : List (List UInt8) :=
  Text.splitAll (· = newlineByte) content.data.toList

/-- Whether the bytes of a line are text. -/
def IsTextLine (line : List UInt8) : Prop := ByteArray.IsValidUTF8 ⟨line.toArray⟩

instance (line : List UInt8) : Decidable (IsTextLine line) :=
  inferInstanceAs (Decidable (ByteArray.IsValidUTF8 ⟨line.toArray⟩))

/-- The record that a line holds, white space at its ends set aside. -/
def Record.ofLine? (line : List UInt8) : Option Record :=
  (String.fromUTF8? ⟨line.toArray⟩).bind (fun s ↦ Record.read? (Text.trimmed s))

variable {line : List UInt8} {lines : List (List UInt8)} {path : String}

theorem Record.read?_empty : Record.read? "" = none := rfl

theorem Record.ofLine?_toUTF8 (s : String) :
    Record.ofLine? s.toUTF8.data.toList = Record.read? (Text.trimmed s) := by
  have hread : String.fromUTF8? ⟨s.toUTF8.data.toList.toArray⟩ = some s := dif_pos s.isValidUTF8
  rw [Record.ofLine?, hread, Option.bind_some]

namespace RecordLine

theorem ofBytes_of_not_isTextLine (h : ¬ IsTextLine line) : ofBytes line = .bytes := by
  have hnone : String.fromUTF8? ⟨line.toArray⟩ = none := dif_neg h
  rw [ofBytes, hnone]

theorem ofBytes_of_isTextLine (h : IsTextLine line) :
    (ofBytes line = .blank ∨ ofBytes line = .foreign) ∧ Record.ofLine? line = none ∨
      ∃ r, ofBytes line = .record r ∧ Record.ofLine? line = some r := by
  have hsome : String.fromUTF8? ⟨line.toArray⟩ = some (String.fromUTF8 ⟨line.toArray⟩ h) :=
    dif_pos h
  rw [ofBytes, Record.ofLine?, hsome, Option.bind_some]
  simp only [ofText]
  split
  · rename_i hempty
    rw [String.isEmpty_iff.1 hempty]
    exact Or.inl ⟨Or.inl rfl, Record.read?_empty⟩
  · split
    · rename_i r hr
      exact Or.inr ⟨r, rfl, hr⟩
    · rename_i hr
      exact Or.inl ⟨Or.inr rfl, hr⟩

theorem result_records (path : String) (n : Nat) (lines : List (List UInt8)) :
    (records path n (lines.map ofBytes)).result =
      if ∀ line ∈ lines, IsTextLine line then .ok (lines.filterMap Record.ofLine?)
      else .error .notText := by
  induction lines generalizing n with
  | nil => simp [records]
  | cons line lines ih =>
    rw [List.map_cons]
    by_cases htext : IsTextLine line
    · have hall : (∀ l ∈ line :: lines, IsTextLine l) ↔ ∀ l ∈ lines, IsTextLine l := by simp [htext]
      simp only [hall]
      rcases ofBytes_of_isTextLine htext with ⟨hskipped | hskipped, hnone⟩ | ⟨r, hrecord, hsome⟩
      · rw [hskipped, List.filterMap_cons_none hnone, ← ih (n + 1)]
        rfl
      · rw [hskipped, List.filterMap_cons_none hnone, ← ih (n + 1)]
        rfl
      · rw [hrecord, List.filterMap_cons_some hsome, records, ih (n + 1)]
        split <;> rfl
    · have hbytes : ¬ ∀ l ∈ line :: lines, IsTextLine l := fun h ↦ htext (h line List.mem_cons_self)
      rw [ofBytes_of_not_isTextLine htext, records, if_neg hbytes]

end RecordLine

theorem result_recordsOfBytes (path : String) (content : ByteArray) :
    (recordsOfBytes path content).result =
      if ∀ line ∈ fileLines content, IsTextLine line then
        .ok ((fileLines content).filterMap Record.ofLine?)
      else .error .notText :=
  RecordLine.result_records path 1 _

theorem readRecords_of_file {d : Disk} {content : ByteArray}
    (h : d.find path = .ok (.file content)) :
    (readRecords path : StateM Disk RecordReading).run d = (recordsOfBytes path content, d) := by
  have hfind : (MonadDisk.find path : StateM Disk _) d = (d.find path, d) := rfl
  simp only [readRecords, readBytes, StateT.run, bind, StateT.bind, hfind, h]
  rfl

/-- A file is read to the records of its lines if and only if every line is text; otherwise there is
no record at all. -/
theorem readRecords_eq_ok_iff (d : Disk) (path : String) (content : ByteArray)
    (h : d.find path = .ok (.file content)) :
    let lines := fileLines content
    let (reading, d') := (readRecords path : StateM Disk RecordReading).run d
    d' = d ∧
      (reading.result = .ok (lines.filterMap Record.ofLine?) ↔ ∀ line ∈ lines, IsTextLine line) ∧
      ((∃ line ∈ lines, ¬ IsTextLine line) → reading.result = .error .notText) := by
  intro lines
  rw [readRecords_of_file h]
  simp only [result_recordsOfBytes]
  refine ⟨trivial, ⟨fun hok ↦ ?_, fun htext ↦ if_pos htext⟩, fun ⟨line, hline, hbytes⟩ ↦ ?_⟩
  · refine Decidable.byContradiction (fun hbytes ↦ ?_)
    rw [if_neg hbytes] at hok
    cases hok
  · exact if_neg (fun htext ↦ hbytes (htext line hline))

/-- A blank line and one that is no record leave the record beside them. -/
theorem readRecords_beside_foreign_line :
    let record :=
      "\x7b\"type\":\"log\",\"timestamp\":\"2026-01-01T00:00:00Z\",\"service\":\"s\"\x7d"
    let text := "not json\n \n" ++ record ++ "\r\n"
    let d : Disk := { files := [(["a.jsonl"], text.toUTF8)] }
    d.find "a.jsonl" = .ok (.file text.toUTF8) ∧
      ((readRecords "a.jsonl" : StateM Disk RecordReading).run d).1.result =
        .ok [.log { timestamp := ⟨1767225600, 0⟩, service := "s" }] := by
  intro record text d
  have hfind : d.find "a.jsonl" = .ok (.file text.toUTF8) := rfl
  have hread := (readRecords_eq_ok_iff d "a.jsonl" text.toUTF8 hfind).2.1.2 (by decide +kernel)
  exact ⟨hfind, hread.trans rfl⟩

/-- One byte that is no text hides the record on the next line. -/
theorem readRecords_beside_undecodable_line :
    let text := "\x7b\"type\":\"log\",\"timestamp\":\"2026-01-01T00:00:00Z\",\"service\":\"s\"\x7d"
    let content : ByteArray := ⟨#[255, 10]⟩ ++ text.toUTF8
    let d : Disk := { files := [(["a.jsonl"], content)] }
    fileLines content = [[255], text.toUTF8.data.toList] ∧
      Record.ofLine? text.toUTF8.data.toList =
        some (.log { timestamp := ⟨1767225600, 0⟩, service := "s" }) ∧
      ((readRecords "a.jsonl" : StateM Disk RecordReading).run d).1.result = .error .notText := by
  intro text content d
  refine ⟨by decide +kernel, ?_, rfl⟩
  have htrim : Text.trimmed text = text := by decide +kernel
  rw [Record.ofLine?_toUTF8, htrim]
  unfold text
  rfl

end FlowCorrelation
