import FlowCorrelation.Proofs.Query.Tally

namespace FlowCorrelation

/-- A fetch that outlives its budget: of the spans of a context, of log entries or metric points of a
context whose spans arrived or not, or of spans or log entries past the cache. -/
inductive LateFetch where
  | spans
  | companion (source : WarningSource) (withSpans : Bool)
  | rawSpans
  | rawLogs
deriving DecidableEq, Repr

namespace LateFetch

def isOfSpans : LateFetch → Bool
  | .spans | .rawSpans => true
  | .companion _ _ | .rawLogs => false

/-- Whether log entries or metric points were to be put beside spans. -/
def isBesideSpans : LateFetch → Bool
  | .companion _ withSpans => withSpans
  | .spans | .rawSpans | .rawLogs => false

def isCounted : LateFetch → Bool
  | .spans => true
  | .companion _ withSpans => withSpans
  | .rawSpans | .rawLogs => false

theorem countP_isCounted (l : List LateFetch) :
    l.countP isCounted = l.count .spans + l.countP isBesideSpans := by
  induction l with
  | nil => rfl
  | cons x l ih =>
    cases x with
    | spans =>
      simp [List.countP_cons, ih, isCounted, isBesideSpans]
      omega
    | companion source withSpans =>
      cases withSpans <;> simp [List.countP_cons, ih, isCounted, isBesideSpans, Nat.add_assoc]
    | rawSpans | rawLogs => simp [ih, isCounted, isBesideSpans]

theorem countP_isOfSpans (l : List LateFetch) :
    l.countP isOfSpans = l.count .spans + l.count .rawSpans := by
  induction l with
  | nil => rfl
  | cons x l ih => cases x <;> simp [List.countP_cons, ih, isOfSpans] <;> omega

end LateFetch

def Gathered.late (x : Gathered) : List LateFetch :=
  (if x.spans.isLate then [.spans] else []) ++
    (if x.logs.isLate then [.companion .logs x.spans.isArrived] else []) ++
    if x.metrics.isLate then [.companion .metrics x.spans.isArrived] else []

theorem Gathered.timeouts_eq (x : Gathered) : x.timeouts = x.late.countP LateFetch.isCounted := by
  obtain ⟨spans, logs, metrics, elapsedMs⟩ := x
  cases spans <;> cases logs <;> cases metrics <;> rfl

namespace QueryEngine

variable {e : QueryEngine}

def lateFor (e : QueryEngine) (g : Gateway) (now : Nat) (raw : String) : List LateFetch :=
  ((e.fetches? now raw).map (fun id ↦ (g.gather id e.timeoutMs).late)).getD []

def lateRaw {α : Type} (e : QueryEngine) (fetch : FlowId → Fetch α) (raw : String)
    (x : LateFetch) : List LateFetch :=
  match acceptId raw .outside with
  | .error _ => []
  | .ok a => if ((fetch a.id).within e.timeoutMs).isLate then [x] else []

theorem timeouts_context (e : QueryEngine) (g : Gateway) (now : Nat) (raw : String) :
    (e.context g now raw).engine.counters.timeouts =
      e.counters.timeouts + (e.lateFor g now raw).countP LateFetch.isCounted := by
  rw [(e.context_account g now raw).1, timeoutsOf, lateFor]
  cases e.fetches? now raw with
  | none => rfl
  | some id => exact congrArg (e.counters.timeouts + ·) (Gathered.timeouts_eq _)

theorem timeouts_accept (e : QueryEngine) (raw : String) :
    (e.accept raw).1.counters.timeouts = e.counters.timeouts := by
  unfold accept
  split <;> rfl

theorem timeouts_invalidate (e : QueryEngine) (raw : String) :
    (e.invalidate raw).1.counters.timeouts = e.counters.timeouts := by
  have haccept := e.timeouts_accept raw
  unfold invalidate
  split <;> rename_i h <;> rw [h] at haccept <;> exact haccept

theorem countP_lateRaw {α : Type} (e : QueryEngine) (fetch : FlowId → Fetch α) (raw : String)
    {x : LateFetch} (hx : x.isCounted = false) :
    (e.lateRaw fetch raw x).countP LateFetch.isCounted = 0 := by
  unfold lateRaw
  split
  · rfl
  · split
    · simp [hx]
    · rfl

end QueryEngine

namespace QuerySession

variable {e : QueryEngine}

def lateOf (s : QuerySession) : Gateway × QueryCall → List LateFetch
  | (g, .context raw) | (g, .timeline raw) => s.engine.lateFor g s.now raw
  | (g, .spans raw) => s.engine.lateRaw g.spans raw .rawSpans
  | (g, .logs raw) => s.engine.lateRaw g.logs raw .rawLogs
  | (_, .invalidate _) | (_, .wait _) => []

/-- The fetches of a run that outlive the budget. -/
def lateFetches (e : QueryEngine) (past : List (Gateway × QueryCall)) : List LateFetch :=
  transcript (fun s (g, call) ↦ s.step g call) lateOf { engine := e } past

theorem timeouts_step (s : QuerySession) (p : Gateway × QueryCall) :
    (s.step p.1 p.2).engine.counters.timeouts =
      s.engine.counters.timeouts + (s.lateOf p).countP LateFetch.isCounted := by
  obtain ⟨g, call⟩ := p
  cases call with
  | context raw => exact s.engine.timeouts_context g s.now raw
  | timeline raw => exact s.engine.timeouts_context g s.now raw
  | spans raw =>
    rw [lateOf, QueryEngine.countP_lateRaw _ _ _ rfl]
    change (s.engine.fetchKind g.spans raw).engine.counters.timeouts = _
    rw [QueryEngine.engine_fetchKind]
    exact s.engine.timeouts_accept raw
  | logs raw =>
    rw [lateOf, QueryEngine.countP_lateRaw _ _ _ rfl]
    change (s.engine.fetchKind g.logs raw).engine.counters.timeouts = _
    rw [QueryEngine.engine_fetchKind]
    exact s.engine.timeouts_accept raw
  | invalidate raw => exact s.engine.timeouts_invalidate raw
  | wait ms => rfl

theorem timeouts_run (hfresh : e.counters.timeouts = 0) (past : List (Gateway × QueryCall)) :
    (run e past).engine.counters.timeouts =
      (lateFetches e past).countP LateFetch.isCounted := by
  refine transcript_induction
    (P := fun (s : QuerySession) (late : List LateFetch) ↦
      s.engine.counters.timeouts = late.countP LateFetch.isCounted) past hfresh
    (fun s p _ late hs ↦ ?_)
  rw [List.countP_append, ← hs]
  exact s.timeouts_step p

/-- The counter of timeouts after a run of calls, from none: it counts the late span fetches of
contexts, and the late fetches of log entries and metric points beside spans that arrived. So it is
the number of late span fetches exactly if the latter are as many as the late fetches of spans past
the cache. -/
theorem timeouts_of_run (hfresh : e.counters.timeouts = 0) (past : List (Gateway × QueryCall)) :
    let c := (run e past).engine.counters
    let late := lateFetches e past
    c.timeouts = late.count .spans + late.countP LateFetch.isBesideSpans ∧
      late.countP LateFetch.isOfSpans = late.count .spans + late.count .rawSpans ∧
      (c.timeouts = late.countP LateFetch.isOfSpans ↔
        late.countP LateFetch.isBesideSpans = late.count .rawSpans) := by
  intro c late
  have hcounted : c.timeouts = late.count .spans + late.countP LateFetch.isBesideSpans :=
    (timeouts_run hfresh past).trans (LateFetch.countP_isCounted late)
  have hspans := LateFetch.countP_isOfSpans late
  refine ⟨hcounted, hspans, ?_⟩
  rw [hcounted, hspans]
  omega

section Stalled

/-- Spans that arrive after the budget are counted where a context is asked for, and not past the
cache. -/
theorem timeouts_of_stalled_spans :
    let g : Gateway := { ({} : FlowStore).gateway with spans := fun _ ↦ .ends 1000 (.ok []) }
    let e : QueryEngine := { timeoutMs := 200, cache := { ttlMs := 300000, capacity := 10 } }
    let past : List (Gateway × QueryCall) := [(g, .context "flow-1"), (g, .spans "flow-1")]
    e.counters.timeouts = 0 ∧ lateFetches e past = [.spans, .rawSpans] ∧
      (run e past).engine.counters.timeouts = 1 ∧
      (run e past).engine.counters.timeouts ≠ (lateFetches e past).countP LateFetch.isOfSpans := by
  intro g e past
  have hlate : lateFetches e past = [.spans, .rawSpans] := by decide +kernel
  obtain ⟨hcounted, -, hiff⟩ := timeouts_of_run (e := e) rfl past
  rw [hlate] at hcounted hiff ⊢
  exact ⟨rfl, rfl, hcounted, hiff.not.2 (by decide)⟩

/-- Log entries that arrive after the budget raise the counter, although the spans were not late. -/
theorem timeouts_of_stalled_logs :
    let entry : LogEntry :=
      ⟨{ timestamp := ⟨0, 0⟩
         service := "s"
         attributes := Dict.ofList [("correlation_id", "flow-1")] }, .info, "retrying"⟩
    let store : FlowStore := ({} : FlowStore).insert (.log entry)
    let g : Gateway :=
      { store.gateway with logs := fun id ↦ .ends 1000 (.ok (store.logsOf id)) }
    let e : QueryEngine := { timeoutMs := 200, cache := { ttlMs := 300000, capacity := 10 } }
    let past : List (Gateway × QueryCall) := [(g, .context "flow-1")]
    (lateFetches e past).countP LateFetch.isOfSpans = 0 ∧
      (run e past).engine.counters.timeouts = 1 ∧
      (run e past).engine.counters.timeouts ≠ (lateFetches e past).countP LateFetch.isOfSpans := by
  decide +kernel

end Stalled

end QuerySession

end FlowCorrelation
