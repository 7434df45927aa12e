import FlowCorrelation.Proofs.Enrichment.Precedence
import FlowCorrelation.Proofs.FlowId.Head

namespace FlowCorrelation

namespace Digest

variable {state : List UInt32}

theorem length_round (h : state.length = 8) (kw : UInt32 × UInt32) :
    (round state kw).length = 8 := by
  unfold round
  split
  · rfl
  · exact h

theorem length_foldl_round (h : state.length = 8) (l : List (UInt32 × UInt32)) :
    (l.foldl round state).length = 8 := by
  induction l generalizing state with
  | nil => exact h
  | cons kw l ih => exact ih (length_round h kw)

theorem length_compress (h : state.length = 8) (block : List UInt32) :
    (compress state block).length = 8 := by
  rw [compress, List.length_zipWith, h, length_foldl_round h, Nat.min_self]

theorem length_compressAll (n : Nat) (h : state.length = 8) (ws : List UInt32) :
    (compressAll n state ws).length = 8 := by
  induction n generalizing state ws with
  | zero => exact h
  | succ n ih => exact ih (length_compress h _) _

theorem length_flatMap_wordBytes (l : List UInt32) : (l.flatMap wordBytes).length = 4 * l.length := by
  induction l with
  | nil => rfl
  | cons w l ih =>
    rw [List.flatMap_cons, List.length_append, ih, List.length_cons]
    simp only [wordBytes, List.length_cons, List.length_nil]
    omega

theorem length_ofText (s : String) : (ofText s).length = 32 := by
  rw [ofText, sha256, length_flatMap_wordBytes, length_compressAll _ rfl]

theorem isSuffix_ofText (s : String) : IsSuffix (hex ((ofText s).take 4)) :=
  isSuffix_hex_take (by simp [length_ofText])

end Digest

namespace Registrar

variable {g : Registrar} {o : Occasion} {r : Record} {d : IdDefect}

/-- Whether an id is made for a record that carries none. -/
def Makes (g : Registrar) (r : Record) : Prop :=
  (g.settings.fromTrace ∧ ∃ t, traceOf r = some t ∧ t ≠ "") ∨
    (g.settings.generate ∧ r.kind ≠ .metric)

theorem exists_made_iff : (∃ p, g.made o (traceOf r) (g.hints r).mayGenerate = some p) ↔
    g.Makes r := by
  have htrace : ((traceOf r).filter (fun t ↦ g.settings.fromTrace && t ≠ "")).isSome ↔
      g.settings.fromTrace ∧ ∃ t, traceOf r = some t ∧ t ≠ "" := by
    cases traceOf r <;> simp [Option.isSome_filter]
  rw [Makes, ← htrace, made]
  cases (traceOf r).filter (fun t ↦ g.settings.fromTrace && t ≠ "") with
  | some t => simp
  | none => simp [hints]

theorem resolve_eq_rejected_iff : g.resolve o r = .rejected d ↔
    (∀ c ∈ g.carried (g.hints r), ¬ IsUsable c.2) ∧
      ∃ source, g.made o (traceOf r) (g.hints r).mayGenerate = some (source, .error d) := by
  rw [← Resolution.firstCarried_eq_none_iff, resolve, resolveHints]
  cases Resolution.firstCarried (g.carried (g.hints r)) with
  | some x => simp
  | none =>
    cases g.made o (traceOf r) (g.hints r).mayGenerate with
    | none => simp
    | some made =>
      obtain ⟨source, id⟩ := made
      cases id <;> simp [stamped]

theorem derive_eq_error_iff {ids : IdSettings} (hhead : isIdHead ids.head) {millis : Nat}
    {trace : String} :
    derive { settings := ids } millis trace = .error d ↔ StampsTooLong ids.head millis d :=
  FlowId.compose_eq_error_iff hhead (Digest.isSuffix_ofText trace)

/-- A record without a usable id of its own is turned down exactly if an id is made for it and the
time is too long for the head. -/
theorem resolve_eq_rejected_iff_tooLong {ids : IdSettings} (hhead : isIdHead ids.head)
    (hrandom : 4 ≤ o.random.length) : resolve { settings := ids } o r = .rejected d ↔
      (∀ c ∈ carried { settings := ids } (hints { settings := ids } r), ¬ IsUsable c.2) ∧
        Makes { settings := ids } r ∧ StampsTooLong ids.head o.millis d := by
  have hmade {source : Provenance} {id : Except IdDefect FlowId}
      (h : made { settings := ids } o (traceOf r) (hints { settings := ids } r).mayGenerate =
        some (source, id)) : id = .error d ↔ StampsTooLong ids.head o.millis d := by
    rcases made_eq_some h with ⟨t, -, -, -, rfl⟩ | ⟨-, rfl⟩
    · exact derive_eq_error_iff hhead
    · exact FlowId.compose_eq_error_iff hhead (Digest.isSuffix_hex_take hrandom)
  rw [resolve_eq_rejected_iff, ← exists_made_iff (o := o)]
  refine and_congr_right' ⟨fun ⟨source, h⟩ ↦ ⟨⟨_, h⟩, (hmade h).1 rfl⟩, ?_⟩
  rintro ⟨⟨⟨source, id⟩, h⟩, hlong⟩
  exact ⟨source, (hmade h).2 hlong ▸ h⟩

end Registrar

namespace Settings

theorem isIdHead_of_checked {s : Settings} (h : s.defect? = none) : isIdHead s.ids.head := by
  have hchecks := List.find?_eq_none.1 (Option.map_eq_none_iff.1 h)
  have hmem : (!isIdHead s.ids.head, SettingsDefect.idHead s.ids.head) ∈ s.checks :=
    List.mem_of_getElem? (i := 2) rfl
  simpa using hchecks _ hmem

/-- Under checked settings an id cannot be stamped, and a record is turned down for it, exactly at
the times that are too long for the head; a head leaves room for all times if it has no more than 77
characters. -/
theorem cannot_stamp_iff_too_long (s : Settings) (h : s.defect? = none) :
    let g : Registrar := { settings := s.ids }
    (∀ millis suffix d, IsSuffix suffix →
      (FlowId.compose s.ids.head millis suffix = .error d ↔ StampsTooLong s.ids.head millis d)) ∧
    (∀ millis traceId d,
      g.derive millis traceId = .error d ↔ StampsTooLong s.ids.head millis d) ∧
    (∀ (o : Occasion) r d, 4 ≤ o.random.length → (g.resolve o r = .rejected d ↔
      (∀ c ∈ g.carried (g.hints r), ¬ IsUsable c.2) ∧ g.Makes r ∧
        StampsTooLong s.ids.head o.millis d)) ∧
    ((∀ millis < 2 ^ 64, ∀ traceId, ∃ id, g.derive millis traceId = .ok id) ↔
      s.ids.head.toList.length ≤ 77) := by
  intro g
  have hhead := isIdHead_of_checked h
  refine ⟨fun millis suffix d hs ↦ FlowId.compose_eq_error_iff hhead hs,
    fun millis traceId d ↦ Registrar.derive_eq_error_iff hhead,
    fun o r d hrandom ↦ Registrar.resolve_eq_rejected_iff_tooLong hhead hrandom, ?_⟩
  rw [← stampLength_le_iff_forall]
  have hderive (millis : Nat) (traceId : String) : (∃ id, g.derive millis traceId = .ok id) ↔
      stampLength s.ids.head millis ≤ maxIdLength :=
    FlowId.compose_eq_ok_iff hhead (Digest.isSuffix_ofText traceId)
  simp only [hderive, forall_const]

/-- The default head leaves room for all times. -/
theorem can_stamp_under_default_head : ({} : Settings).defect? = none ∧
    ∀ millis < 2 ^ 64, ∀ traceId, ∃ id, Registrar.derive {} millis traceId = .ok id := by
  have hchecked : ({} : Settings).defect? = none := by decide +kernel
  obtain ⟨-, -, -, hroom⟩ := cannot_stamp_iff_too_long {} hchecked
  exact ⟨hchecked, hroom.2 (by decide +kernel)⟩

/-- Under a head of a hundred characters, which passes the check, nothing can be stamped. -/
theorem cannot_stamp_under_longest_head :
    let s : Settings := { ids := { head := String.ofList (List.replicate 100 'a') } }
    let g : Registrar := { settings := s.ids }
    let r : Record := .span { timestamp := ⟨0, 0⟩, service := "s", name := "n", traceId := some "t" }
    s.defect? = none ∧ FlowId.compose s.ids.head 0 "a7b2c4d1" = .error (.tooLong 111) ∧
      g.derive 0 "t" = .error (.tooLong 111) ∧
      g.resolve ⟨0, [0, 0, 0, 0]⟩ r = .rejected (.tooLong 111) := by
  intro s g r
  have hchecked : s.defect? = none := by decide +kernel
  have hhead := isIdHead_of_checked hchecked
  have hlength : stampLength s.ids.head 0 = 111 := by decide +kernel
  have hlong : StampsTooLong s.ids.head 0 (.tooLong 111) := by
    simp [StampsTooLong, hlength, maxIdLength]
  refine ⟨hchecked, (FlowId.compose_eq_error_iff hhead (by decide +kernel)).2 hlong,
    (Registrar.derive_eq_error_iff hhead).2 hlong,
    (Registrar.resolve_eq_rejected_iff_tooLong hhead (by decide)).2 ⟨?_, ?_, hlong⟩⟩
  · have hnone : g.carried (g.hints r) = [] := by decide +kernel
    simp [g, hnone]
  · exact Or.inl ⟨rfl, "t", rfl, by decide⟩

end Settings

end FlowCorrelation
