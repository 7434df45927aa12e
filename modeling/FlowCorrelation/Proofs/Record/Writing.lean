import FlowCorrelation.Proofs.Disk
import FlowCorrelation.Proofs.Record.Reading
import FlowCorrelation.Proofs.Record.RoundTrip

namespace FlowCorrelation

variable {r : Record} {l : List Record} {s : String}

/-- The bytes of a text. -/
def textBytes (s : String) : List UInt8 := s.toUTF8.data.toList

theorem textBytes_append (s t : String) : textBytes (s ++ t) = textBytes s ++ textBytes t := by
  simp [textBytes, String.toUTF8]

theorem textBytes_ofList (cs : List Char) :
    textBytes (String.ofList cs) = cs.flatMap String.utf8EncodeChar := by
  simp [textBytes, String.toUTF8, List.utf8Encode]

theorem le_toNat_of_mem_utf8EncodeChar {c : Char} (hc : 0x20 ≤ c.toNat) :
    ∀ b ∈ String.utf8EncodeChar c, 0x20 ≤ b.toNat := by
  -- Beyond the first 128 characters every byte has its highest bit set.
  simp only [String.utf8EncodeChar, Char.toNat_val]
  split_ifs <;> simp <;> omega

theorem newlineByte_notMem_textBytes {cs : List Char} (h : Json.IsOneLine cs) :
    newlineByte ∉ textBytes (String.ofList cs) := by
  rw [textBytes_ofList]
  intro hmem
  obtain ⟨c, hc, hbyte⟩ := List.mem_flatMap.1 hmem
  exact absurd (le_toNat_of_mem_utf8EncodeChar (h c hc) newlineByte hbyte) (by decide)

theorem fileLines_append {line : String} (h : newlineByte ∉ textBytes line) (rest : String) :
    fileLines (line ++ "\n" ++ rest).toUTF8 = textBytes line :: fileLines rest.toUTF8 := by
  have hnewline : textBytes "\n" = [newlineByte] := by decide
  have hline : ∀ b ∈ textBytes line, ¬ decide (b = newlineByte) := by
    intro b hb heq
    exact h (of_decide_eq_true heq ▸ hb)
  have hbytes : textBytes (line ++ "\n" ++ rest) =
      textBytes line ++ newlineByte :: textBytes rest := by
    rw [textBytes_append, textBytes_append, hnewline, List.append_assoc, List.singleton_append]
  exact (congrArg (Text.splitAll (· = newlineByte)) hbytes).trans
    (Text.splitAll_append hline (by decide) (textBytes rest))

def recordText (l : List Record) : String := String.join (recordPieces l)

theorem recordText_cons (r : Record) (l : List Record) :
    recordText (r :: l) = r.render ++ "\n" ++ recordText l := by
  simp [recordText, recordPieces, String.join_cons, String.append_assoc]

theorem recordText_append (l₁ l₂ : List Record) :
    recordText (l₁ ++ l₂) = recordText l₁ ++ recordText l₂ := by
  simp [recordText, recordPieces]

theorem trimmed_braces (cs : List Char) :
    Text.trimmed (String.ofList ('\x7b' :: cs ++ ['\x7d'])) =
      String.ofList ('\x7b' :: cs ++ ['\x7d']) := by
  have hopen : Text.isBlank '\x7b' = false := by decide
  have hclose : Text.isBlank '\x7d' = false := by decide
  simp [Text.trimmed, Text.trim, Text.trimLeft, Text.trimRight, hopen, hclose]

theorem Record.exists_chars_toJson (r : Record) :
    ∃ cs, r.toJson.chars = '\x7b' :: cs ++ ['\x7d'] := by
  cases r <;> exact ⟨_, rfl⟩

theorem Record.trimmed_render (r : Record) : Text.trimmed r.render = r.render := by
  obtain ⟨cs, hcs⟩ := r.exists_chars_toJson
  rw [Record.render, Json.render, hcs, trimmed_braces]

theorem Record.ReadsBack.ofLine?_render (h : r.ReadsBack) :
    Record.ofLine? (textBytes r.render) = some r := by
  rw [textBytes, Record.ofLine?_toUTF8, r.trimmed_render, Record.read?_render h]

theorem Record.ReadsBack.newlineByte_notMem_render (h : r.ReadsBack) :
    newlineByte ∉ textBytes r.render :=
  newlineByte_notMem_textBytes (Record.legible_toJson h 0).isOneLine

theorem isTextLine_textBytes (s : String) : IsTextLine (textBytes s) := s.isValidUTF8

theorem fileLines_recordText (h : ∀ r ∈ l, r.ReadsBack) :
    fileLines (recordText l).toUTF8 = l.map (fun r ↦ textBytes r.render) ++ [[]] := by
  induction l with
  | nil => rfl
  | cons r l ih =>
    have hline := (h r List.mem_cons_self).newlineByte_notMem_render
    have hrest := ih (fun q hq ↦ h q (List.mem_cons_of_mem r hq))
    rw [recordText_cons, fileLines_append hline, hrest, List.map_cons, List.cons_append]

theorem result_recordText (path : String) (h : ∀ r ∈ l, r.ReadsBack) :
    (recordsOfBytes path (recordText l).toUTF8).result = .ok l := by
  have hlines := fileLines_recordText h
  have htext : ∀ line ∈ fileLines (recordText l).toUTF8, IsTextLine line := by
    rw [hlines]
    refine List.forall_mem_append.2 ⟨fun line hline ↦ ?_, fun line hline ↦ ?_⟩
    · obtain ⟨r, -, rfl⟩ := List.mem_map.1 hline
      exact isTextLine_textBytes r.render
    · rw [List.mem_singleton.1 hline]
      decide
  have hrecords : (l.map (fun r ↦ textBytes r.render)).filterMap Record.ofLine? = l := by
    have hread : ∀ r ∈ l, (Record.ofLine? ∘ fun r ↦ textBytes r.render) r = some r :=
      fun r hr ↦ (h r hr).ofLine?_render
    rw [List.filterMap_map, List.filterMap_congr hread, List.filterMap_some]
  have hlast : [([] : List UInt8)].filterMap Record.ofLine? = [] := rfl
  rw [result_recordsOfBytes, if_pos htext, hlines, List.filterMap_append, hrecords, hlast,
    List.append_nil]

namespace LineBuffer

theorem add_text (b : LineBuffer) (piece : String) :
    (b.add piece).2 ++ (b.add piece).1.waiting = b.waiting ++ piece := by
  simp only [add]
  split_ifs <;> simp

theorem addAll_text (b : LineBuffer) (pieces : List String) :
    (b.addAll pieces).2 ++ (b.addAll pieces).1.waiting = b.waiting ++ String.join pieces := by
  have hfold (acc : LineBuffer × String) :
      let next := pieces.foldl (fun p piece ↦ ((p.1.add piece).1, p.2 ++ (p.1.add piece).2)) acc
      next.2 ++ next.1.waiting = acc.2 ++ acc.1.waiting ++ String.join pieces := by
    induction pieces generalizing acc with
    | nil => simp
    | cons piece pieces ih =>
      calc
        _ = acc.2 ++ (acc.1.add piece).2 ++ (acc.1.add piece).1.waiting ++ String.join pieces := ih _
        _ = acc.2 ++ (acc.1.waiting ++ piece) ++ String.join pieces := by
          rw [← add_text acc.1 piece, ← String.append_assoc]
        _ = acc.2 ++ acc.1.waiting ++ String.join (piece :: pieces) := by
          simp only [String.join_cons, String.append_assoc]
  exact (hfold (b, "")).trans (by simp)

end LineBuffer

namespace RecordWriter

variable {m : Type → Type} [Monad m] [MonadDisk m]

def writeAll (w : RecordWriter) : List (List Record) → m (Except DiskFault RecordWriter)
  | [] => return .ok w
  | batch :: batches => do
    match ← w.write batch with
    | .ok w => w.writeAll batches
    | .error f => return .error f

theorem emit_text (w : RecordWriter) (batch : List Record) :
    (w.emit batch).2 ++ (w.emit batch).1.buffer.waiting = w.buffer.waiting ++ recordText batch := by
  have hadd : (w.buffer.addAll (recordPieces batch)).2 ++
      (w.buffer.addAll (recordPieces batch)).1.waiting = w.buffer.waiting ++ recordText batch :=
    w.buffer.addAll_text (recordPieces batch)
  simp only [emit]
  split
  · simpa using hadd
  · exact hadd

theorem emit_writer (w : RecordWriter) (batch : List Record) :
    (w.emit batch).1 =
      { w with
        buffer := if w.flushEach then {} else (w.buffer.addAll (recordPieces batch)).1
        written := w.written + batch.length } := by
  simp only [emit]
  split <;> rfl

/-- Whether records, and nothing else, were written to a file: what waits in the buffer is what the
file lacks. -/
structure HasWritten (path : String) (flushEach : Bool) (w : RecordWriter) (d : Disk)
    (l : List Record) : Prop where
  path_eq : w.path = path
  flushEach_eq : w.flushEach = flushEach
  written : w.written = l.length
  text : ∃ s : String, d.find path = .ok (.file s.toUTF8) ∧ s ++ w.buffer.waiting = recordText l
  flushed : flushEach → w.buffer.waiting = ""

variable {path : String} {flushEach : Bool} {w : RecordWriter} {d : Disk}

theorem exists_put {s : String} (h : d.find path = .ok (.file s.toUTF8))
    (next : RecordWriter × String) (hpath : next.1.path = path) :
    ∃ d', (put next : StateM Disk _).run d = (.ok next.1, d') ∧
      d'.find path = .ok (.file (s ++ next.2).toUTF8) := by
  obtain ⟨d', happend, hfind⟩ := Disk.exists_append h next.2.toUTF8
  refine ⟨d', ?_, ?_⟩
  · subst hpath
    simp only [put, StateT.run, bind, StateT.bind] at happend ⊢
    rw [happend]
    rfl
  · rw [hfind]
    simp [String.toUTF8]

namespace HasWritten

theorem write (h : HasWritten path flushEach w d l) (batch : List Record) :
    ∃ w' d', (w.write batch : StateM Disk _).run d = (.ok w', d') ∧
      HasWritten path flushEach w' d' (l ++ batch) := by
  obtain ⟨s, hfind, htext⟩ := h.text
  have hwriter := w.emit_writer batch
  have hpath : (w.emit batch).1.path = path := by rw [hwriter, h.path_eq]
  obtain ⟨d', hrun, hfind'⟩ := exists_put hfind (w.emit batch) hpath
  refine ⟨(w.emit batch).1, d', hrun, hpath, ?_, ?_, ⟨_, hfind', ?_⟩, fun hflush ↦ ?_⟩
  · rw [hwriter, h.flushEach_eq]
  · rw [hwriter, h.written, List.length_append]
  · rw [String.append_assoc, emit_text, ← String.append_assoc, htext, recordText_append]
  · rw [hwriter, if_pos (h.flushEach_eq.trans hflush)]

theorem flush (h : HasWritten path flushEach w d l) :
    ∃ w' d', (w.flush : StateM Disk _).run d = (.ok w', d') ∧ HasWritten path flushEach w' d' l ∧
      w'.buffer.waiting = "" := by
  obtain ⟨s, hfind, htext⟩ := h.text
  obtain ⟨d', hrun, hfind'⟩ := exists_put hfind w.drain h.path_eq
  have hwritten : s ++ w.buffer.waiting ++ "" = recordText l := String.append_empty.trans htext
  exact ⟨w.drain.1, d', hrun,
    ⟨h.path_eq, h.flushEach_eq, h.written, ⟨_, hfind', hwritten⟩, fun _ ↦ rfl⟩, rfl⟩

theorem writeAll (h : HasWritten path flushEach w d l) (batches : List (List Record)) :
    ∃ w' d', (w.writeAll batches : StateM Disk _).run d = (.ok w', d') ∧
      HasWritten path flushEach w' d' (l ++ batches.flatten) := by
  induction batches generalizing w d l with
  | nil => exact ⟨w, d, rfl, by simpa using h⟩
  | cons batch batches ih =>
    obtain ⟨w₁, d₁, hwrite, h₁⟩ := h.write batch
    obtain ⟨w₂, d₂, hrest, h₂⟩ := ih h₁
    refine ⟨w₂, d₂, ?_, by simpa using h₂⟩
    simp only [RecordWriter.writeAll, StateT.run, bind, StateT.bind] at hwrite hrest ⊢
    rw [hwrite]
    exact hrest

theorem find_eq (h : HasWritten path flushEach w d l) (hwaiting : w.buffer.waiting = "") :
    d.find path = .ok (.file (recordText l).toUTF8) := by
  obtain ⟨s, hfind, htext⟩ := h.text
  rw [hwaiting, String.append_empty] at htext
  rw [hfind, htext]

theorem result_readRecords (h : HasWritten path flushEach w d l) (hwaiting : w.buffer.waiting = "")
    (hread : ∀ r ∈ l, r.ReadsBack) :
    ((readRecords path : StateM Disk RecordReading).run d).1.result = .ok l := by
  rw [readRecords_of_file (h.find_eq hwaiting)]
  exact result_recordText path hread

end HasWritten

theorem hasWritten_create (flushEach : Bool) {d' : Disk} (h : d.write path .empty = .ok d') :
    ∃ w said, (create path false flushEach : StateM Disk _).run d = ((.ok w, said), d') ∧
      HasWritten path flushEach w d' [] := by
  have hchange : (MonadDisk.write path .empty : StateM Disk _) d = (.ok (), d') := by
    simp only [MonadDisk.write, Disk.change, h]
  have hrun : (create path false flushEach : StateM Disk _).run d =
      ((.ok { path := path, flushEach := flushEach },
        [.info ("JSONL sink writing to: " ++ Text.quoted path)]), d') := by
    simp only [create, Bool.false_eq_true, if_false, StateT.run, bind, StateT.bind, hchange]
    rfl
  exact ⟨_, _, hrun, rfl, rfl, rfl, ⟨"", Disk.find_of_write h, rfl⟩, fun _ ↦ rfl⟩

end RecordWriter

/-- Opens a new file and writes batches of records to it. -/
def writeBatches {m : Type → Type} [Monad m] [MonadDisk m] (path : String) (flushEach : Bool)
    (batches : List (List Record)) : m (Except DiskFault RecordWriter) := do
  match ← RecordWriter.create path false flushEach with
  | (.ok w, _) => w.writeAll batches
  | (.error f, _) => return .error f

/-- Records that are written to a new file in batches are read back in their order, one from each
line, as soon as the buffer was flushed. -/
theorem readRecords_writeBatches (d : Disk) (path : String) (flushEach : Bool)
    (batches : List (List Record)) (hopen : ∃ d₀, d.write path .empty = .ok d₀)
    (hread : ∀ r ∈ batches.flatten, r.ReadsBack) :
    ∃ w d₁ w' d₂, (writeBatches path flushEach batches : StateM Disk _).run d = (.ok w, d₁) ∧
      (w.flush : StateM Disk _).run d₁ = (.ok w', d₂) ∧ w'.written = batches.flatten.length ∧
      (∃ content, d₂.find path = .ok (.file content) ∧
        fileLines content = batches.flatten.map (fun r ↦ textBytes r.render) ++ [[]]) ∧
      ((readRecords path : StateM Disk _).run d₂).1.result = .ok batches.flatten ∧
      (flushEach → ((readRecords path : StateM Disk _).run d₁).1.result = .ok batches.flatten) := by
  obtain ⟨d₀, hwrite⟩ := hopen
  obtain ⟨w₀, said, hcreate, h₀⟩ := RecordWriter.hasWritten_create flushEach hwrite
  obtain ⟨w, d₁, hall, h₁⟩ := h₀.writeAll batches
  obtain ⟨w', d₂, hflush, h₂, hwaiting⟩ := h₁.flush
  rw [List.nil_append] at h₁ h₂
  refine ⟨w, d₁, w', d₂, ?_, hflush, h₂.written,
    ⟨_, h₂.find_eq hwaiting, fileLines_recordText hread⟩,
    h₂.result_readRecords hwaiting hread,
    fun heach ↦ h₁.result_readRecords (h₁.flushed heach) hread⟩
  simp only [writeBatches, StateT.run, bind, StateT.bind] at hcreate hall ⊢
  rw [hcreate]
  exact hall

/-- Two batches with one record of each kind, controls and quotes among their texts. -/
theorem readRecords_of_two_batches :
    let time : Instant := ⟨1767225600, 0⟩
    let span : Record := .span {
      timestamp := time, service := "a \"b\"\n\\", name := "GET\x01", durationMs := 1.5
      attributes := Dict.ofList [("k\n", "v\t")] }
    let log : Record := .log {
      timestamp := time, service := "é", severity := .warn, body := "\r\n" }
    let metric : Record := .metric {
      timestamp := time, service := "s", name := "m", value := 1.5
      exemplar := some { traceId := "t", spanId := "\x7f" } }
    let batches := [[span, log], [], [metric]]
    (∃ d₀, ({} : Disk).write "out.jsonl" .empty = .ok d₀) ∧
      (∀ r ∈ batches.flatten, r.ReadsBack) ∧
      ∃ w d₁ w' d₂,
        (writeBatches "out.jsonl" false batches : StateM Disk _).run {} = (.ok w, d₁) ∧
        (w.flush : StateM Disk _).run d₁ = (.ok w', d₂) ∧
        ((readRecords "out.jsonl" : StateM Disk _).run d₂).1.result = .ok [span, log, metric] := by
  intro time span log metric batches
  have hopen : ∃ d₀, ({} : Disk).write "out.jsonl" .empty = .ok d₀ := ⟨_, rfl⟩
  have hfinite : (1.5 : Float).isFinite := by decide
  have hnumeral : Json.number (Json.realChars 1.5) = some (.real 1.5, []) := by
    have hchars : Json.realChars 1.5 = ['1', '.', '5'] := by decide +kernel
    rw [hchars]
    rfl
  have htime : Timestamp.read? (Timestamp.render time) = some time := by decide +kernel
  have hspan : span.ReadsBack :=
    ⟨List.forall_mem_singleton.2 hfinite, List.forall_mem_singleton.2 hnumeral, htime⟩
  have hlog : log.ReadsBack := ⟨List.forall_mem_nil _, List.forall_mem_nil _, htime⟩
  have hmetric : metric.ReadsBack :=
    ⟨List.forall_mem_singleton.2 hfinite, List.forall_mem_singleton.2 hnumeral, htime⟩
  have hread : ∀ r ∈ batches.flatten, r.ReadsBack := by
    simp [batches, hspan, hlog, hmetric]
  obtain ⟨w, d₁, w', d₂, hwrite, hflush, -, -, hresult, -⟩ :=
    readRecords_writeBatches {} "out.jsonl" false batches hopen hread
  exact ⟨hopen, hread, w, d₁, w', d₂, hwrite, hflush, hresult⟩

end FlowCorrelation
