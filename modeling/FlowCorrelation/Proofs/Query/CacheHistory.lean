import FlowCorrelation.Proofs.Query.Eviction

namespace FlowCorrelation

/-- What a cache is asked to do, or how long nothing is asked. -/
inductive CacheCall (α : Type) where
  | insert (key : String) (a : α)
  | get (key : String)
  | invalidate (key : String)
  | clear
  | wait (ms : Nat)

def CacheCall.isGet {α : Type} : CacheCall α → Bool
  | .get _ => true
  | _ => false

structure CacheSession (α : Type) where
  cache : TimedCache α
  now : Nat := 0

namespace CacheSession

variable {α : Type} {s t start : CacheSession α} {call : CacheCall α} {key : String}
  {past : List (CacheSession α × CacheCall α)}

/-- What a call may make of a cache, whichever of its oldest entries goes when it is full. -/
inductive Step (s : CacheSession α) : CacheCall α → CacheSession α → Prop where
  | insert {key : String} {a : α} {d : TimedCache α} (h : s.cache.Inserts s.now key a d) :
      Step s (.insert key a) { s with cache := d }
  | get (key : String) : Step s (.get key) { s with cache := (s.cache.get s.now key).1 }
  | invalidate (key : String) : Step s (.invalidate key) { s with cache := s.cache.invalidate key }
  | clear : Step s .clear { s with cache := s.cache.clear }
  | wait (ms : Nat) : Step s (.wait ms) { s with now := s.now + ms }

/-- What a call makes of a cache that evicts as it does. -/
def step (s : CacheSession α) : CacheCall α → CacheSession α
  | .insert key a => { s with cache := s.cache.insert s.now key a }
  | .get key => { s with cache := (s.cache.get s.now key).1 }
  | .invalidate key => { s with cache := s.cache.invalidate key }
  | .clear => { s with cache := s.cache.clear }
  | .wait ms => { s with now := s.now + ms }

theorem step_step (s : CacheSession α) (call : CacheCall α) : Step s call (s.step call) := by
  cases call with
  | insert key a => exact .insert (s.cache.inserts_insert s.now key a)
  | get key => exact .get key
  | invalidate key => exact .invalidate key
  | clear => exact .clear
  | wait ms => exact .wait ms

/-- A run, the latest call first. Beside each call stands the session before it. -/
inductive Run (start : CacheSession α) :
    List (CacheSession α × CacheCall α) → CacheSession α → Prop where
  | nil : Run start [] start
  | cons {past : List (CacheSession α × CacheCall α)} {s t : CacheSession α} {call : CacheCall α}
      (h : Run start past s) (hstep : Step s call t) : Run start ((s, call) :: past) t

/-- Whether an entry that was there is gone. -/
def drops (s t : CacheSession α) (key : String) : Bool :=
  s.cache.entries.contains key && !t.cache.entries.contains key

/-- The entry that was last put under a key in a run that led to `t`, unless it was invalidated,
cleared or evicted since. -/
def standing? (key : String) :
    List (CacheSession α × CacheCall α) → CacheSession α → Option (CacheEntry α)
  | [], _ => none
  | (s, .insert k a) :: past, t =>
    if k = key ∧ s.cache.isEnabled then some ⟨a, s.now⟩
    else if s.drops t key then none else standing? key past s
  | (s, .invalidate k) :: past, _ => if k = key then none else standing? key past s
  | (_, .clear) :: _, _ => none
  | (s, .get _) :: past, _ => standing? key past s
  | (s, .wait _) :: past, _ => standing? key past s

structure Accounted (start : CacheSession α) (past : List (CacheSession α × CacheCall α))
    (s : CacheSession α) : Prop where
  ttlMs_eq : s.cache.ttlMs = start.cache.ttlMs
  capacity_eq : s.cache.capacity = start.cache.capacity
  size_le : s.cache.size ≤ start.cache.capacity
  empty_of_off : start.cache.isEnabled = false → s.cache.entries = ∅
  asked : s.cache.hits + s.cache.misses =
    start.cache.hits + start.cache.misses + past.countP (·.2.isGet)
  served (key : String) (x : CacheEntry α) : s.cache.isFresh s.now x →
    (s.cache.entries.get? key = some x ↔ standing? key past s = some x)

theorem standing?_insert {k : String} {a : α} {d : TimedCache α}
    (h : s.cache.Inserts s.now k a d) {x : CacheEntry α}
    (hserved : s.cache.entries.get? key = some x ↔ standing? key past s = some x) :
    d.entries.get? key = some x ↔
      standing? key ((s, .insert k a) :: past) { s with cache := d } = some x := by
  unfold standing?
  split
  · rename_i hk
    obtain ⟨rfl, hon⟩ := hk
    rw [h.get?_self hon]
  · rename_i hk
    rcases h.get?_cases hk with hsame | hgone
    · have hkept : s.drops { s with cache := d } key = false := by
        simp [drops, Dict.contains, hsame]
      rw [hsame, hkept]
      exact hserved
    · cases hold : s.cache.entries.get? key with
      | none =>
        have hkept : s.drops { s with cache := d } key = false := by
          simp [drops, Dict.contains, hold]
        rw [hkept, hgone, ← hold]
        exact hserved
      | some y =>
        have hdropped : s.drops { s with cache := d } key = true := by
          simp [drops, Dict.contains, hold, hgone]
        rw [hdropped, hgone]
        exact Iff.rfl

theorem get?_get_iff (c : TimedCache α) (now : Nat) (k : String) {x : CacheEntry α}
    (hx : c.isFresh now x) :
    (c.get now k).1.entries.get? key = some x ↔ c.entries.get? key = some x := by
  cases hpeek : c.peek? now k with
  | some a => rw [TimedCache.get_of_hit hpeek]
  | none =>
    rw [TimedCache.get_of_miss hpeek]
    refine ⟨TimedCache.of_get?_erase, fun hkey ↦ ?_⟩
    rw [TimedCache.get?_erase, if_neg, hkey]
    rintro rfl
    rw [TimedCache.peek?_eq_some_iff.2 ⟨x, hkey, hx, rfl⟩] at hpeek
    cases hpeek

theorem get_spec (c : TimedCache α) (now : Nat) (k : String) :
    let d := (c.get now k).1
    d.ttlMs = c.ttlMs ∧ d.capacity = c.capacity ∧ d.size ≤ c.size ∧
      d.hits + d.misses = c.hits + c.misses + 1 ∧ (c.entries = ∅ → d.entries = ∅) := by
  intro d
  cases hpeek : c.peek? now k with
  | some a =>
    have hd : d = { c with hits := c.hits + 1 } := congrArg Prod.fst (TimedCache.get_of_hit hpeek)
    rw [hd]
    exact ⟨rfl, rfl, le_rfl, Nat.succ_add _ _, id⟩
  | none =>
    have hd : d = { c with entries := c.entries.erase k, misses := c.misses + 1 } :=
      congrArg Prod.fst (TimedCache.get_of_miss hpeek)
    rw [hd]
    refine ⟨rfl, rfl, Dict.size_filter_le _ _, rfl, fun hempty ↦ ?_⟩
    simp only [hempty]
    rfl

theorem Accounted.isEnabled_eq (h : Accounted start past s) :
    s.cache.isEnabled = start.cache.isEnabled := by
  rw [TimedCache.isEnabled, TimedCache.isEnabled, h.capacity_eq, h.ttlMs_eq]

theorem Accounted.step (h : Accounted start past s) (hstep : Step s call t) :
    Accounted start ((s, call) :: past) t := by
  have hcount : ((s, call) :: past).countP (·.2.isGet) =
      past.countP (·.2.isGet) + if call.isGet then 1 else 0 := List.countP_cons
  cases hstep with
  | @insert k a d hd =>
    obtain ⟨httl, hcapacity, hhits, hmisses⟩ := hd.sameRules
    refine ⟨httl.trans h.ttlMs_eq, hcapacity.trans h.capacity_eq, ?_, fun hoff ↦ ?_, ?_,
      fun key x hx ↦ ?_⟩
    · rw [← h.capacity_eq]
      exact hd.size_le (h.size_le.trans_eq h.capacity_eq.symm)
    · rw [hd.eq_of_off (h.isEnabled_eq.trans hoff)]
      exact h.empty_of_off hoff
    · rw [hcount, hhits, hmisses]
      exact h.asked
    · simp only [TimedCache.isFresh, httl] at hx
      exact standing?_insert hd (h.served key x hx)
  | get k =>
    obtain ⟨httl, hcapacity, hsize, hasked, hempty⟩ := get_spec s.cache s.now k
    refine ⟨httl.trans h.ttlMs_eq, hcapacity.trans h.capacity_eq, hsize.trans h.size_le,
      fun hoff ↦ hempty (h.empty_of_off hoff), ?_, fun key x hx ↦ ?_⟩
    · rw [hcount, hasked, h.asked]
      rfl
    · simp only [TimedCache.isFresh, httl] at hx
      exact (get?_get_iff s.cache s.now k hx).trans (h.served key x hx)
  | invalidate k =>
    refine ⟨h.ttlMs_eq, h.capacity_eq, (Dict.size_filter_le _ _).trans h.size_le, fun hoff ↦ ?_,
      h.asked, fun key x hx ↦ ?_⟩
    · rw [TimedCache.invalidate, h.empty_of_off hoff]
      rfl
    · simp only [TimedCache.invalidate, TimedCache.get?_erase, standing?, eq_comm (a := k)]
      split
      · exact Iff.rfl
      · exact h.served key x hx
  | clear =>
    exact ⟨h.ttlMs_eq, h.capacity_eq, Nat.zero_le _, fun _ ↦ rfl, h.asked,
      fun key x _ ↦ Iff.rfl⟩
  | wait ms =>
    refine ⟨h.ttlMs_eq, h.capacity_eq, h.size_le, h.empty_of_off, h.asked, fun key x hx ↦ ?_⟩
    apply h.served key x
    simp only [TimedCache.isFresh, decide_eq_true_eq] at hx ⊢
    omega

/-- Whatever a new cache is used for, its accounts are right. -/
theorem Run.accounted (h : Run start past s) (hstart : start.cache.entries = ∅) :
    Accounted start past s := by
  induction h with
  | nil =>
    refine ⟨rfl, rfl, ?_, fun _ ↦ hstart, by simp, fun key x _ ↦ ?_⟩
    · rw [TimedCache.size, hstart]
      exact Nat.zero_le _
    · rw [hstart, Dict.get?_empty]
      exact Iff.rfl
  | cons _ hstep ih => exact ih.step hstep

/-- Whatever a cache is used for, it keeps at most its capacity. What it serves under a key is what
was last put there, if that is younger than the time to live and was not invalidated, cleared or
evicted. A key that is there or finds room evicts nothing; another one evicts what has expired, or
if nothing has, one of the oldest entries. -/
theorem serves_latest (ttlMs capacity : Nat) (h : Run ⟨{ ttlMs, capacity }, 0⟩ past s) :
    s.cache.size ≤ capacity ∧
      (∀ key a, (s.cache.get s.now key).2 = some a ↔
        ∃ t, standing? key past s = some ⟨a, t⟩ ∧ s.now - t < ttlMs) ∧
      (∀ key a d, s.cache.Inserts s.now key a d →
        (s.cache.entries.contains key ∨ s.cache.size < capacity →
          ∀ k ≠ key, d.entries.get? k = s.cache.entries.get? k) ∧
        (0 < capacity → 0 < ttlMs → s.cache.entries.get? key = none → s.cache.size = capacity →
          ((∃ k x, s.cache.entries.get? k = some x ∧ ¬ s.cache.isFresh s.now x) ∧
            ∀ k ≠ key, d.entries.get? k = (s.cache.entries.get? k).filter (s.cache.isFresh s.now)) ∨
          ((∀ k x, s.cache.entries.get? k = some x → s.cache.isFresh s.now x) ∧ ∃ victim,
            TimedCache.IsOldest s.cache.entries victim ∧ ∀ k ≠ key,
              d.entries.get? k = if k = victim then none else s.cache.entries.get? k))) ∧
      (capacity = 0 ∨ ttlMs = 0 → s.cache.size = 0) ∧
      s.cache.hits + s.cache.misses = past.countP (·.2.isGet) ∧
      ∀ call, Step s call (s.step call) := by
  have haccounts := h.accounted rfl
  have httl : s.cache.ttlMs = ttlMs := haccounts.ttlMs_eq
  have hcapacity : s.cache.capacity = capacity := haccounts.capacity_eq
  refine ⟨haccounts.size_le, fun key a ↦ ?_, fun key a d hd ↦ ⟨fun hroom k hk ↦ ?_, ?_⟩, fun hoff ↦ ?_,
    haccounts.asked.trans (Nat.zero_add _), s.step_step⟩
  · rw [TimedCache.get_eq_some_iff]
    constructor
    · rintro ⟨⟨b, t⟩, hx, hfresh, rfl⟩
      refine ⟨t, (haccounts.served key _ hfresh).1 hx, ?_⟩
      simpa [TimedCache.isFresh, httl] using hfresh
    · rintro ⟨t, hx, hage⟩
      have hfresh : s.cache.isFresh s.now ⟨a, t⟩ := by simpa [TimedCache.isFresh, httl] using hage
      exact ⟨_, (haccounts.served key _ hfresh).2 hx, hfresh, rfl⟩
  · rw [← hcapacity] at hroom
    exact hd.of_room hroom hk
  · rintro hpos httlpos hnew hfull
    have hon : s.cache.isEnabled = true := by
      rw [TimedCache.isEnabled_iff, hcapacity, httl]
      exact ⟨hpos, httlpos⟩
    exact hd.of_full hon hnew (hfull.trans hcapacity.symm)
  · have hempty : s.cache.entries = ∅ := by
      apply haccounts.empty_of_off
      rcases hoff with rfl | rfl
      · rfl
      · exact Bool.and_false _
    rw [TimedCache.size, hempty]
    rfl

/-- A third key evicts the older of two; the younger one and the new one are served. -/
theorem serves_latest_after_eviction :
    let start : CacheSession Nat := ⟨{ ttlMs := 300, capacity := 2 }, 0⟩
    let s₁ := start.step (.insert "b" 1)
    let s₂ := (s₁.step (.wait 200)).step (.insert "a" 2)
    let s₃ := s₂.step (.insert "c" 3)
    let past := [(s₂, CacheCall.insert "c" 3), (s₁.step (.wait 200), .insert "a" 2), (s₁, .wait 200),
      (start, .insert "b" 1)]
    Run start past s₃ ∧ s₃.cache.size ≤ 2 ∧ (s₃.cache.get s₃.now "a").2 = some 2 ∧
      (s₃.cache.get s₃.now "b").2 ≠ some 1 := by
  intro start s₁ s₂ s₃ past
  have hrun : Run start past s₃ :=
    (((Run.nil.cons (step_step _ _)).cons (step_step _ _)).cons (step_step _ _)).cons (step_step _ _)
  obtain ⟨hsize, hserved, -⟩ := serves_latest 300 2 hrun
  refine ⟨hrun, hsize, (hserved "a" 2).2 ⟨200, by decide +kernel, by decide +kernel⟩, fun hb ↦ ?_⟩
  obtain ⟨t, ht, -⟩ := (hserved "b" 1).1 hb
  have hnone : standing? "b" past s₃ = none := by decide +kernel
  rw [hnone] at ht
  cases ht

end CacheSession

end FlowCorrelation
