import FlowCorrelation.Proofs.Calendar.Stability
import FlowCorrelation.Proofs.FlowStore.Retrieval
import FlowCorrelation.Proofs.KeySet

namespace FlowCorrelation

/-- What a store is asked to do. -/
inductive StoreCall where
  | insert (r : Record)
  | write (batch : List Record)
  | purge (now : Instant)

inductive StoreReply where
  | inserted (indexed : Bool)
  | written
  | purged (removed : Nat)
deriving DecidableEq

/-- The records that a call offers. -/
def StoreCall.offered : StoreCall → List Record
  | .insert r => [r]
  | .write batch => batch
  | .purge _ => []

/-- Whether a record is too old for a call. -/
def StoreCall.strikes (retention : Option Span) (r : Record) : StoreCall → Bool
  | .purge now => (retention.bind now.sub?).any (r.timestamp < ·)
  | _ => false

/-- The records with an id that were offered and not struck out since, in the order of arrival. -/
def ledger (name : String) (retention : Option Span) (calls : List StoreCall) : List Record :=
  calls.foldl (fun l c ↦ l.filter (fun r ↦ !c.strikes retention r) ++
    c.offered.filter (fun r ↦ (r.carriedId name).isSome)) []

namespace RecordIndex

variable {α : Type} {d : RecordIndex α} {p : α → Bool}

/-- All records of an index. -/
def all (d : RecordIndex α) : List α := d.entries.flatMap Prod.snd

def Filled (d : RecordIndex α) : Prop := ∀ key, d.get? key ≠ some []

theorem count_eq (d : RecordIndex α) : d.count = d.all.length := by
  have h (l : List (String × List α)) (n : Nat) :
      ((l.map Prod.snd).map List.length).foldl (· + ·) n = n + (l.flatMap Prod.snd).length := by
    induction l generalizing n with
    | nil => rfl
    | cons e l ih =>
      rw [List.map_cons, List.map_cons, List.foldl_cons, ih, List.flatMap_cons, List.length_append]
      omega
  exact (h d.entries 0).trans (Nat.zero_add _)

theorem flatMap_insertEntry_perm (key : String) (a : α) (es : List (String × List α))
    (h : es.Pairwise (fun a b ↦ a.1 < b.1)) :
    ((Dict.insertEntry key (((es.find? (fun e ↦ e.1 = key)).map Prod.snd).getD [] ++ [a])
      es).flatMap Prod.snd).Perm (a :: es.flatMap Prod.snd) := by
  induction es with
  | nil => simp [Dict.insertEntry]
  | cons e es ih =>
    obtain ⟨he, hes⟩ := List.pairwise_cons.1 h
    by_cases hlt : key < e.1
    · have hall : ∀ e' ∈ e :: es, key < e'.1 := by
        intro e' he'
        rcases List.mem_cons.1 he' with rfl | he'
        · exact hlt
        · exact String.lt_trans hlt (he e' he')
      simp [Dict.insertEntry, Dict.find?_eq_none_of_lt hall, hlt]
    · by_cases heq : e.1 = key
      · subst heq
        simp only [Dict.insertEntry, hlt, if_false, if_true, List.find?_cons, decide_true,
          Option.map_some, Option.getD_some, List.flatMap_cons, List.append_assoc,
          List.singleton_append]
        exact List.perm_middle
      · have hne : key ≠ e.1 := Ne.symm heq
        simp only [Dict.insertEntry, hlt, hne, if_false, List.find?_cons, heq, decide_false,
          List.flatMap_cons]
        exact ((ih hes).append_left e.2).trans List.perm_middle

theorem all_push_perm (d : RecordIndex α) (key : String) (a : α) :
    (d.push key a).all.Perm (a :: d.all) :=
  flatMap_insertEntry_perm key a d.entries d.ascending

theorem all_keep (p : α → Bool) (d : RecordIndex α) : (d.keep p).all = d.all.filter p := by
  have h (es : List (String × List α)) :
      ((es.map (fun e ↦ (e.1, e.2.filter p))).filter (fun e ↦ !e.2.isEmpty)).flatMap Prod.snd =
        (es.flatMap Prod.snd).filter p := by
    induction es with
    | nil => rfl
    | cons e es ih =>
      rw [List.map_cons, List.filter_cons, List.flatMap_cons, List.filter_append, ← ih]
      cases hp : e.2.filter p <;> simp
  exact h d.entries

theorem under_keep (p : α → Bool) (d : RecordIndex α) (key : String) :
    (d.keep p).under key = (d.under key).filter p := by
  simp only [under, keep, Dict.get?_filter, Dict.get?_map]
  cases d.get? key with
  | none => rfl
  | some l => cases hp : l.filter p <;> simp [Option.filter, hp]

theorem Filled.push (h : d.Filled) (key : String) (a : α) : (d.push key a).Filled := by
  intro k hk
  rw [RecordIndex.push, Dict.update, Dict.get?_insert] at hk
  split at hk
  · simp at hk
  · exact h k hk

theorem filled_keep (p : α → Bool) (d : RecordIndex α) : (d.keep p).Filled := by
  intro k hk
  rw [keep, Dict.get?_filter] at hk
  have hfilled := (Option.filter_eq_some_iff.1 hk).2
  simp at hfilled

theorem Filled.mem_keys_iff (h : d.Filled) {key : String} : key ∈ d.keys ↔ d.under key ≠ [] := by
  rw [Dict.mem_keys_iff, under]
  have hkey := h key
  cases hd : d.get? key with
  | none => simp
  | some l => simpa [hd] using hkey

end RecordIndex

namespace FlowStore

variable {s t : FlowStore} {l : List Record} {r : Record} {cutoff : Instant}

/-- What a store does on a call, and what it answers. -/
def step? (s : FlowStore) : StoreCall → Option (FlowStore × StoreReply)
  | .insert r => some (s.insert r, .inserted (s.indexes r))
  | .write batch => some (s.insertAll batch, .written)
  | .purge now => (s.purge? now).map (fun t ↦ (t, .purged (s.size - t.size)))

/-- The store after a run of calls. -/
def run? (s : FlowStore) (calls : List StoreCall) : Option FlowStore :=
  calls.foldlM (fun s c ↦ (s.step? c).map Prod.fst) s

/-- All records of a store. -/
def all (s : FlowStore) : List Record :=
  s.spans.all.map .span ++ s.logs.all.map .log ++ s.metrics.all.map .metric

structure Holds (s : FlowStore) (l : List Record) : Prop where
  kept : ∀ kind key, s.kept kind key = l.filter (s.belongs · kind key)
  all_perm : s.all.Perm l
  spans_filled : s.spans.Filled
  logs_filled : s.logs.Filled

theorem size_eq (s : FlowStore) : s.size = s.all.length := by
  simp [size, all, RecordIndex.count_eq, Nat.add_assoc]

theorem Holds.size_eq (h : s.Holds l) : s.size = l.length :=
  s.size_eq.trans h.all_perm.length_eq

theorem all_put_perm (s : FlowStore) (key : String) (r : Record) :
    (s.put key r).all.Perm (s.all ++ [r]) := by
  refine List.Perm.trans ?_ (List.perm_append_singleton r s.all).symm
  cases r with
  | span x =>
    have h := (s.spans.all_push_perm key x).map Record.span
    exact (h.append_right _).append_right _
  | log x =>
    have h := (s.logs.all_push_perm key x).map Record.log
    exact ((h.append_left _).trans List.perm_middle).append_right _
  | metric x =>
    have h := (s.metrics.all_push_perm key x).map Record.metric
    exact (h.append_left _).trans List.perm_middle

theorem Holds.insert (h : s.Holds l) (r : Record) :
    (s.insert r).Holds (l ++ [r].filter (fun r ↦ (r.carriedId s.attributeName).isSome)) := by
  have hkept (kind : RecordKind) (key : String) : (s.insert r).kept kind key =
      (l ++ [r].filter (fun r ↦ (r.carriedId s.attributeName).isSome)).filter
        ((s.insert r).belongs · kind key) := by
    have hfiled : s.belongs r kind key → (r.carriedId s.attributeName).isSome := by
      intro hb
      have hkey : s.keyOf r = some key := (of_decide_eq_true hb).1
      exact Option.isSome_map.symm.trans (Option.isSome_iff_exists.2 ⟨key, hkey⟩)
    simp only [belongs_insert, kept_insert, h.kept, List.filter_append, List.filter_filter]
    by_cases hb : s.belongs r kind key
    · simp [hb, hfiled hb]
    · simp [hb]
  cases hkey : s.keyOf r with
  | none =>
    have hnone : r.carriedId s.attributeName = none := Option.map_eq_none_iff.1 hkey
    have hinsert : s.insert r = { s with unindexed := s.unindexed + 1 } := by
      simp only [FlowStore.insert, hkey]
    refine ⟨hkept, ?_, ?_, ?_⟩
    · rw [hinsert, List.filter_cons_of_neg (by simp [hnone]), List.filter_nil, List.append_nil]
      exact h.all_perm
    · exact hinsert ▸ h.spans_filled
    · exact hinsert ▸ h.logs_filled
  | some key =>
    obtain ⟨raw, hraw, -⟩ := Option.map_eq_some_iff.1 hkey
    have hinsert : s.insert r = s.put key r := by
      simp only [FlowStore.insert, hkey]
    refine ⟨hkept, ?_, ?_, ?_⟩
    · rw [hinsert]
      refine (s.all_put_perm key r).trans ?_
      simpa [hraw] using h.all_perm.append_right [r]
    · rw [hinsert]
      cases r with
      | span x => exact h.spans_filled.push key x
      | log x => exact h.spans_filled
      | metric x => exact h.spans_filled
    · rw [hinsert]
      cases r with
      | span x => exact h.logs_filled
      | log x => exact h.logs_filled.push key x
      | metric x => exact h.logs_filled

theorem Holds.insertAll (h : s.Holds l) (batch : List Record) :
    (s.insertAll batch).Holds
      (l ++ batch.filter (fun r ↦ (r.carriedId s.attributeName).isSome)) := by
  induction batch generalizing s l with
  | nil => simpa [FlowStore.insertAll] using h
  | cons r batch ih =>
    have hrest := ih (h.insert r)
    rw [attributeName_insert, List.append_assoc, ← List.filter_append] at hrest
    exact hrest

theorem kept_dropBefore (s : FlowStore) (cutoff : Instant) (kind : RecordKind) (key : String) :
    (s.dropBefore cutoff).kept kind key =
      (s.kept kind key).filter (fun r ↦ !decide (r.timestamp < cutoff)) := by
  have h (t : Instant) : (!decide (t < cutoff)) = decide (cutoff ≤ t) := by
    simp [← Instant.not_lt]
  cases kind <;>
    simp only [kept, dropBefore, RecordIndex.under_keep, List.filter_map, Function.comp_def, h] <;> rfl

theorem all_dropBefore (s : FlowStore) (cutoff : Instant) :
    (s.dropBefore cutoff).all = s.all.filter (fun r ↦ !decide (r.timestamp < cutoff)) := by
  have h (t : Instant) : (!decide (t < cutoff)) = decide (cutoff ≤ t) := by
    simp [← Instant.not_lt]
  simp only [all, dropBefore, RecordIndex.all_keep, List.filter_append, List.filter_map,
    Function.comp_def, h]
  rfl

theorem Holds.dropBefore (h : s.Holds l) (cutoff : Instant) :
    (s.dropBefore cutoff).Holds (l.filter (fun r ↦ !decide (r.timestamp < cutoff))) := by
  refine ⟨fun kind key ↦ ?_, ?_, RecordIndex.filled_keep _ _, RecordIndex.filled_keep _ _⟩
  · rw [kept_dropBefore, h.kept, List.filter_filter, List.filter_filter]
    exact List.filter_congr (fun r _ ↦ Bool.and_comm _ _)
  · rw [all_dropBefore]
    exact h.all_perm.filter _

theorem Holds.recordsOf_eq (h : s.Holds l) (kind : RecordKind) (id : FlowId) :
    s.recordsOf kind id =
      chronological Record.timestamp (l.filter (s.belongs · kind (id.identity s.head))) := by
  rw [FlowStore.recordsOf_eq, h.kept]

theorem Holds.kept_ne_nil_iff (h : s.Holds l) {kind : RecordKind} {key : String} :
    s.kept kind key ≠ [] ↔ ∃ r ∈ l, s.keyOf r = some key ∧ r.kind = kind := by
  rw [h.kept]
  simp [belongs, List.filter_eq_nil_iff]

theorem Holds.flowCount_eq (h : s.Holds l) :
    s.flowCount = ((l.filter (·.kind ≠ .metric)).filterMap s.keyOf).toFinset.card := by
  rw [flowCount, ← Dict.card_keySet, Dict.keySet_ofNames]
  congr 1
  ext key
  have hspans : key ∈ s.spans.keys ↔ ∃ r ∈ l, s.keyOf r = some key ∧ r.kind = .span := by
    rw [h.spans_filled.mem_keys_iff, ← h.kept_ne_nil_iff]
    simp [FlowStore.kept]
  have hlogs : key ∈ s.logs.keys ↔ ∃ r ∈ l, s.keyOf r = some key ∧ r.kind = .log := by
    rw [h.logs_filled.mem_keys_iff, ← h.kept_ne_nil_iff]
    simp [FlowStore.kept]
  rw [List.mem_toFinset, List.mem_toFinset, List.mem_append, hspans, hlogs]
  simp only [List.mem_filterMap, List.mem_filter, decide_eq_true_eq]
  constructor
  · rintro (⟨r, hr, hkey, hkind⟩ | ⟨r, hr, hkey, hkind⟩)
    · exact ⟨r, ⟨hr, by simp [hkind]⟩, hkey⟩
    · exact ⟨r, ⟨hr, by simp [hkind]⟩, hkey⟩
  · rintro ⟨r, ⟨hr, hkind⟩, hkey⟩
    cases hk : r.kind with
    | span => exact Or.inl ⟨r, hr, hkey, hk⟩
    | log => exact Or.inr ⟨r, hr, hkey, hk⟩
    | metric => exact absurd hk hkind

def SameRules (s t : FlowStore) : Prop :=
  s.attributeName = t.attributeName ∧ s.head = t.head ∧ s.retention = t.retention

theorem SameRules.keyOf_eq (h : s.SameRules t) : s.keyOf = t.keyOf := by
  funext r
  rw [keyOf, keyOf, h.1, h.2.1]

theorem sameRules_insert (s : FlowStore) (r : Record) : (s.insert r).SameRules s := by
  unfold FlowStore.insert put
  cases s.keyOf r <;> cases r <;> exact ⟨rfl, rfl, rfl⟩

theorem given_insert (s : FlowStore) (r : Record) :
    (s.insert r).stored + (s.insert r).unindexed = s.stored + s.unindexed + 1 := by
  unfold FlowStore.insert put
  cases s.keyOf r <;> cases r <;> simp only <;> omega

theorem sameRules_insertAll (s : FlowStore) (batch : List Record) :
    (s.insertAll batch).SameRules s := by
  induction batch generalizing s with
  | nil => exact ⟨rfl, rfl, rfl⟩
  | cons r batch ih =>
    obtain ⟨hname, hhead, hretention⟩ := ih (s.insert r)
    obtain ⟨hname', hhead', hretention'⟩ := s.sameRules_insert r
    exact ⟨hname.trans hname', hhead.trans hhead', hretention.trans hretention'⟩

theorem given_insertAll (s : FlowStore) (batch : List Record) :
    (s.insertAll batch).stored + (s.insertAll batch).unindexed =
      s.stored + s.unindexed + batch.length := by
  induction batch generalizing s with
  | nil => rfl
  | cons r batch ih =>
    refine (ih (s.insert r)).trans ?_
    rw [given_insert, List.length_cons]
    omega

theorem ledger_concat (name : String) (retention : Option Span) (calls : List StoreCall)
    (c : StoreCall) : ledger name retention (calls ++ [c]) =
      (ledger name retention calls).filter (fun r ↦ !c.strikes retention r) ++
        c.offered.filter (fun r ↦ (r.carriedId name).isSome) := by
  rw [ledger, List.foldl_concat]
  rfl

theorem run?_concat (s : FlowStore) (calls : List StoreCall) (c : StoreCall) :
    s.run? (calls ++ [c]) = (s.run? calls).bind (fun t ↦ (t.step? c).map Prod.fst) := by
  simp [run?, List.foldlM_append]

/-- Whether the calendar reaches back over the retention from the time of a call. -/
def WithinCalendar (retention : Option Span) (c : StoreCall) : Prop :=
  ∀ now d, c = .purge now → retention = some d → (now.sub? d).isSome

/-- A purge strikes out what is too old, and tells how much that was. -/
theorem Holds.purge (h : s.Holds l) {now : Instant}
    (hnow : WithinCalendar s.retention (.purge now)) :
    ∃ t, s.step? (.purge now) =
        some (t, .purged (l.countP (StoreCall.strikes s.retention · (.purge now)))) ∧
      t.SameRules s ∧ t.Holds (l.filter (fun r ↦ !StoreCall.strikes s.retention r (.purge now))) ∧
      t.stored + t.unindexed = s.stored + s.unindexed := by
  obtain ⟨t, ht, hrules, hholds, hgiven⟩ : ∃ t, s.purge? now = some t ∧ t.SameRules s ∧
      t.Holds (l.filter (fun r ↦ !StoreCall.strikes s.retention r (.purge now))) ∧
      t.stored + t.unindexed = s.stored + s.unindexed := by
    cases hr : s.retention with
    | none =>
      refine ⟨s, by simp [purge?, hr], ⟨rfl, rfl, rfl⟩, ?_, rfl⟩
      simpa [StoreCall.strikes] using h
    | some d =>
      obtain ⟨cutoff, hcutoff⟩ := Option.isSome_iff_exists.1 (hnow now d rfl hr)
      refine ⟨s.dropBefore cutoff, by simp [purge?, hr, hcutoff], ⟨rfl, rfl, rfl⟩, ?_, rfl⟩
      simpa [StoreCall.strikes, hcutoff] using h.dropBefore cutoff
  have hremoved : s.size - t.size =
      l.countP (StoreCall.strikes s.retention · (.purge now)) := by
    have hsplit := List.length_eq_countP_add_countP
      (StoreCall.strikes s.retention · (.purge now)) (l := l)
    rw [h.size_eq, hholds.size_eq, ← List.countP_eq_length_filter]
    simp only [Bool.not_eq_true, Bool.decide_eq_false] at hsplit
    omega
  exact ⟨t, by rw [step?, ht, Option.map_some, hremoved], hrules, hholds, hgiven⟩

theorem Holds.step (h : s.Holds l) {c : StoreCall} (hc : WithinCalendar s.retention c) :
    ∃ t reply, s.step? c = some (t, reply) ∧ t.SameRules s ∧
      t.Holds (l.filter (fun r ↦ !c.strikes s.retention r) ++
        c.offered.filter (fun r ↦ (r.carriedId s.attributeName).isSome)) ∧
      t.stored + t.unindexed = s.stored + s.unindexed + c.offered.length := by
  cases c with
  | insert r =>
    refine ⟨_, _, rfl, s.sameRules_insert r, ?_, s.given_insert r⟩
    simpa [StoreCall.strikes, StoreCall.offered] using h.insert r
  | write batch =>
    refine ⟨_, _, rfl, s.sameRules_insertAll batch, ?_, s.given_insertAll batch⟩
    simpa [StoreCall.strikes, StoreCall.offered] using h.insertAll batch
  | purge now =>
    obtain ⟨t, ht, hrules, hholds, hgiven⟩ := h.purge hc
    exact ⟨t, _, ht, hrules, by simpa [StoreCall.offered] using hholds, hgiven⟩

theorem exists_run? (s : FlowStore) (hs : s.Holds []) {calls : List StoreCall}
    (hcalls : ∀ c ∈ calls, WithinCalendar s.retention c) :
    ∃ t, s.run? calls = some t ∧ t.SameRules s ∧
      t.Holds (ledger s.attributeName s.retention calls) ∧
      t.stored + t.unindexed =
        s.stored + s.unindexed + (calls.flatMap StoreCall.offered).length := by
  induction calls using List.reverseRecOn with
  | nil => exact ⟨s, rfl, ⟨rfl, rfl, rfl⟩, hs, rfl⟩
  | append_singleton calls c ih =>
    obtain ⟨t, ht, ⟨hname, hhead, hretention⟩, hholds, hgiven⟩ :=
      ih (fun c' hc' ↦ hcalls c' (List.mem_append_left _ hc'))
    have hc : WithinCalendar t.retention c := hretention ▸ hcalls c (by simp)
    obtain ⟨u, reply, hu, ⟨hname', hhead', hretention'⟩, hholds', hgiven'⟩ := hholds.step hc
    refine ⟨u, ?_, ⟨hname'.trans hname, hhead'.trans hhead, hretention'.trans hretention⟩, ?_, ?_⟩
    · rw [run?_concat, ht, Option.bind_some, hu, Option.map_some]
    · rw [hname, hretention] at hholds'
      rwa [ledger_concat]
    · rw [hgiven', hgiven, List.flatMap_append, List.length_append]
      simp [Nat.add_assoc]

theorem holds_nil (name head : String) (retention : Option Span) :
    ({ attributeName := name, head := head, retention := retention } : FlowStore).Holds [] := by
  refine ⟨fun kind key ↦ ?_, List.Perm.refl [], nofun, nofun⟩
  cases kind <;> rfl

/-- A store that was empty at first answers after any run of calls as its ledger does. -/
theorem answers_from_ledger (name head : String) (retention : Option Span) (calls : List StoreCall)
    (hcalls : ∀ c ∈ calls, WithinCalendar retention c) :
    let held := ledger name retention calls
    ∃ s, run? { attributeName := name, head := head, retention := retention } calls = some s ∧
      (∀ kind (id : FlowId), Arranges Record.timestamp
        (held.filter (fun r ↦ r.kind = kind ∧
          (r.carriedId name).map (identityKey · head) = some (id.identity head)))
        (s.recordsOf kind id)) ∧
      (∀ r, s.step? (.insert r) = some (s.insert r, .inserted (r.carriedId name).isSome)) ∧
      (∀ now, WithinCalendar retention (.purge now) → ∃ t,
        s.step? (.purge now) =
          some (t, .purged (held.countP (StoreCall.strikes retention · (.purge now)))) ∧
        ∀ kind id, t.recordsOf kind id =
          (s.recordsOf kind id).filter (fun r ↦ !StoreCall.strikes retention r (.purge now))) ∧
      s.stored + s.unindexed = (calls.flatMap StoreCall.offered).length ∧
      s.flowCount = ((held.filter (·.kind ≠ .metric)).filterMap
        (fun r ↦ (r.carriedId name).map (identityKey · head))).toFinset.card := by
  intro held
  obtain ⟨s, hs, hsame, hholds, hgiven⟩ :=
    exists_run? _ (holds_nil name head retention) hcalls
  have hkey : s.keyOf = fun r ↦ (r.carriedId name).map (identityKey · head) := hsame.keyOf_eq
  obtain ⟨-, hhead, hretention⟩ : s.attributeName = name ∧ s.head = head ∧ s.retention = retention :=
    hsame
  refine ⟨s, hs, fun kind id ↦ ?_, fun r ↦ ?_, fun now hnow ↦ ?_, ?_, ?_⟩
  · have hbelongs : held.filter (s.belongs · kind (id.identity s.head)) =
        held.filter (fun r ↦ r.kind = kind ∧
          (r.carriedId name).map (identityKey · head) = some (id.identity head)) := by
      refine List.filter_congr (fun r _ ↦ decide_eq_decide.2 ?_)
      rw [hkey, hhead]
      exact And.comm
    rw [hholds.recordsOf_eq, ← hbelongs]
    exact arranges_chronological _ _
  · rw [step?, indexes, hkey, Option.isSome_map]
  · rw [← hretention] at hnow ⊢
    obtain ⟨t, ht, hrules, hholds', -⟩ := hholds.purge hnow
    refine ⟨t, ht, fun kind id ↦ ?_⟩
    have hbelongs : t.belongs = s.belongs := by
      unfold belongs
      rw [hrules.keyOf_eq]
    rw [hholds'.recordsOf_eq, hholds.recordsOf_eq, filter_chronological, List.filter_filter,
      List.filter_filter, hbelongs, hrules.2.1]
    simp only [Bool.and_comm]
  · rw [hgiven]
    exact Nat.zero_add _
  · rw [hholds.flowCount_eq, hkey]

/-- Of two records of one flow, stamped at different moments, a purge leaves the one that is not
too old; the other flow is gone and counted no more. -/
theorem answers_from_ledger_after_purge :
    let log (seconds : Int) (id : String) : Record :=
      .log ⟨{ timestamp := ⟨seconds, 0⟩
              service := "s"
              attributes := Dict.ofList [("correlation_id", id)] }, .info, ""⟩
    let bare : Record := .log ⟨{ timestamp := ⟨100, 0⟩, service := "s" }, .info, ""⟩
    let calls : List StoreCall := [.write [log 90 "olly-k1-0badf00d", log 0 "olly-k2-0badf00d"],
      .insert (log 10 "flow-2"), .insert bare, .purge ⟨120, 0⟩]
    let id : FlowId := ⟨"olly-zz-0badf00d", by decide +kernel⟩
    (∀ c ∈ calls, WithinCalendar (some 60000000000) c) ∧
      ∃ s, run? { retention := some 60000000000 } calls = some s ∧
        (s.recordsOf .log id).map Record.timestamp = [⟨90, 0⟩] ∧
        s.stored + s.unindexed = 4 ∧ s.flowCount = 1 := by
  intro log bare calls id
  have hcalls : ∀ c ∈ calls, WithinCalendar (some 60000000000) c := by
    intro c hc now d hnow hd
    obtain rfl : 60000000000 = d := Option.some.inj hd
    subst hnow
    obtain rfl : now = ⟨120, 0⟩ := by simpa [calls] using hc
    decide
  obtain ⟨s, hs, hfetch, -, -, hgiven, hflows⟩ :=
    answers_from_ledger "correlation_id" "olly" _ calls hcalls
  refine ⟨hcalls, s, hs, ?_, hgiven, ?_⟩
  · have hperm := (hfetch .log id).perm.map Record.timestamp
    refine List.perm_singleton.1 (hperm.trans (List.Perm.of_eq ?_))
    decide +kernel
  · rw [hflows]
    decide +kernel

end FlowStore

end FlowCorrelation
