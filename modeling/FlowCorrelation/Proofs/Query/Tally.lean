import FlowCorrelation.Proofs.Query.Eviction
import FlowCorrelation.Proofs.Query.FailurePolicy
import FlowCorrelation.Proofs.Transcript

namespace FlowCorrelation

/-- How a query for a context ends: its text is no id, a cached context is served, nothing is
recorded about the flow, a context is put together without or with a warning, its spans cannot be
fetched or do not arrive in time, or there is no answer. -/
inductive QueryEnding where
  | turnedDown
  | served
  | absent
  | complete
  | degraded
  | failed
  | overdue
  | unanswered
deriving DecidableEq, Repr

def QueryEnding.isFetched : QueryEnding → Bool
  | .turnedDown | .served => false
  | _ => true

def QueryEnding.ofFetched : Option (Except QueryFault (Option FlowContext)) → QueryEnding
  | none => .unanswered
  | some (.error (.invalid _)) => .turnedDown
  | some (.error (.timeout _)) => .overdue
  | some (.error (.storage _)) => .failed
  | some (.ok none) => .absent
  | some (.ok (some c)) => if c.warnings = [] then .complete else .degraded

theorem QueryEnding.eq_none_of_unanswered {r : Option (Except QueryFault (Option FlowContext))}
    (h : ofFetched r = .unanswered) : r = none := by
  cases r with
  | none => rfl
  | some r =>
    cases r with
    | error f => cases f <;> cases h
    | ok c =>
      cases c with
      | none => cases h
      | some c =>
        simp only [ofFetched] at h
        split at h <;> cases h

def Fetched.isLate {α : Type} : Fetched α → Bool
  | .late => true
  | .arrived _ | .failed _ => false

/-- Whether all spans that a gateway brings end within the calendar. -/
def Gateway.EndsInCalendar (g : Gateway) : Prop :=
  ∀ id ms l, (g.spans id).within ms = .arrived l → ∀ x ∈ l, x.endTime? ≠ none

/-- How many fetches are counted as timed out: that of the spans, or if they arrive those of log
entries and metric points. -/
def Gathered.timeouts (x : Gathered) : Nat :=
  match x.spans with
  | .arrived _ => (if x.logs.isLate then 1 else 0) + if x.metrics.isLate then 1 else 0
  | .failed _ => 0
  | .late => 1

namespace QueryCounters

def settle (c : QueryCounters) : QueryEnding → QueryCounters
  | .absent => { c with notFound := c.notFound + 1 }
  | .degraded => { c with partialResults := c.partialResults + 1 }
  | .failed => { c with storageErrors := c.storageErrors + 1 }
  | _ => c

def tally (c : QueryCounters) : QueryEnding → QueryCounters
  | .turnedDown => { c with requests := c.requests + 1, validationErrors := c.validationErrors + 1 }
  | .served => { c with requests := c.requests + 1, cacheHits := c.cacheHits + 1 }
  | x => { c with requests := c.requests + 1, cacheMisses := c.cacheMisses + 1 }.settle x

theorem tally_of_isFetched (c : QueryCounters) {x : QueryEnding} (hx : x.isFetched) :
    c.tally x = { c with requests := c.requests + 1, cacheMisses := c.cacheMisses + 1 }.settle x := by
  cases x <;> first | rfl | cases hx

theorem settle_built (c : QueryCounters) {x : FlowContext} (hx : x.isPartial = !x.warnings.isEmpty) :
    c.settle (.ofFetched (some (.ok (some x)))) =
      { c with partialResults := if x.isPartial then c.partialResults + 1 else c.partialResults } := by
  by_cases hwarnings : x.warnings = [] <;> simp [QueryEnding.ofFetched, hx, hwarnings, settle]

end QueryCounters

namespace QueryEngine

variable {e : QueryEngine} {g : Gateway} {now : Nat} {raw : String} {id : FlowId}

def fetches? (e : QueryEngine) (now : Nat) (raw : String) : Option FlowId :=
  match acceptId raw .outside with
  | .error _ => none
  | .ok a => if (e.cache.peek? now (a.id.identity e.head)).isNone then some a.id else none

/-- How a query ends. A context for which the gateway was not asked was cached. -/
def ending (e : QueryEngine) (g : Gateway) (now : Nat) (raw : String) : QueryEnding :=
  let result := (e.context g now raw).result
  if (e.fetches? now raw).isNone ∧ (found? result).isSome then .served else .ofFetched result

def timeoutsOf (e : QueryEngine) (g : Gateway) (now : Nat) (raw : String) : Nat :=
  ((e.fetches? now raw).map (fun id ↦ (g.gather id e.timeoutMs).timeouts)).getD 0

theorem late_degrade {α : Type} (x : Fetched α) (source : WarningSource) (ms : Nat) :
    (x.degrade source ms).late = x.isLate := by
  cases x <;> rfl

theorem counters_build (e : QueryEngine) (now : Nat) (id : FlowId) {spans : List SpanRecord}
    {x : Gathered} (hx : x.spans = .arrived spans) :
    (e.build now id spans x).engine.counters =
      { e.counters.settle (.ofFetched (e.build now id spans x).result) with
        timeouts := e.counters.timeouts + x.timeouts } := by
  have htimeouts : x.timeouts = (if (x.logs.degrade .logs e.timeoutMs).late then 1 else 0) +
      if (x.metrics.degrade .metrics e.timeoutMs).late then 1 else 0 := by
    simp only [Gathered.timeouts, hx, late_degrade]
  rw [htimeouts]
  simp only [build, count]
  split
  · rfl
  · split
    · rfl
    · rename_i hc
      rw [QueryCounters.settle_built]
      rw [FlowContext.foldl_addWarning_of_assemble? hc]

theorem counters_fetchContext (e : QueryEngine) (g : Gateway) (now : Nat) (id : FlowId) :
    (e.fetchContext g now id).engine.counters =
      { e.counters.settle (.ofFetched (e.fetchContext g now id).result) with
        timeouts := e.counters.timeouts + (g.gather id e.timeoutMs).timeouts } := by
  cases hspans : (g.gather id e.timeoutMs).spans with
  | arrived spans =>
    have hr : e.fetchContext g now id = e.build now id spans (g.gather id e.timeoutMs) := by
      simp only [fetchContext, hspans]
    rw [hr]
    exact e.counters_build now id hspans
  | late =>
    simp only [fetchContext, Gathered.timeouts, hspans]
    rfl
  | failed f =>
    simp only [fetchContext, Gathered.timeouts, hspans]
    rfl

theorem hits_fetchContext (e : QueryEngine) (g : Gateway) (now : Nat) (id : FlowId) :
    (e.fetchContext g now id).engine.cache.hits = e.cache.hits ∧
      (e.fetchContext g now id).engine.cache.misses = e.cache.misses := by
  obtain ⟨-, -, ⟨-, hcache⟩ | ⟨c, -, hcache⟩⟩ := e.fetchContext_cases g now id
  · rw [hcache]
    exact ⟨rfl, rfl⟩
  · rw [hcache]
    exact (TimedCache.inserts_insert _ _ _ _).sameRules.2.2

theorem isFetched_uncached (e : QueryEngine) (g : Gateway) (id : FlowId) :
    (QueryEnding.ofFetched (e.uncached g id)).isFetched := by
  have hvalid := e.uncached_ne_invalid g id
  unfold QueryEnding.ofFetched
  split <;> try rfl
  · rename_i d hd
    exact absurd hd (hvalid d)
  · split <;> rfl

theorem fetches?_eq_some_iff : e.fetches? now raw = some id ↔ ∃ a, acceptId raw .outside = .ok a ∧
    e.cache.peek? now (a.id.identity e.head) = none ∧ a.id = id := by
  unfold fetches?
  cases acceptId raw .outside with
  | error d => simp
  | ok a => cases hpeek : e.cache.peek? now (a.id.identity e.head) <;> simp [hpeek]

theorem ending_of_fetches (h : e.fetches? now raw = some id) :
    e.ending g now raw = .ofFetched (e.uncached g id) := by
  obtain ⟨a, ha, hpeek, rfl⟩ := fetches?_eq_some_iff.1 h
  simp only [ending, h, context_of_miss ha hpeek]
  exact if_neg (by simp)

theorem engine_of_fetches (h : e.fetches? now raw = some id) :
    ∃ e' : QueryEngine, e'.SameRules e ∧
      e'.counters = { e.counters with
        requests := e.counters.requests + 1, cacheMisses := e.counters.cacheMisses + 1 } ∧
      e'.cache.hits = e.cache.hits ∧ e'.cache.misses = e.cache.misses + 1 ∧
      (e.context g now raw).engine = (e'.fetchContext g now id).engine := by
  obtain ⟨a, ha, hpeek, rfl⟩ := fetches?_eq_some_iff.1 h
  simp only [context, accept, ha, count, TimedCache.get_of_miss hpeek]
  refine ⟨_, ?_, ?_, ?_, ?_, rfl⟩
  · exact ⟨rfl, rfl, rfl⟩
  · rfl
  · rfl
  · rfl

/-- The counters after a query are those of its ending and of its timeouts, and the cache has
counted the same hit or miss. -/
theorem context_account (e : QueryEngine) (g : Gateway) (now : Nat) (raw : String) :
    let x := e.ending g now raw
    let after := (e.context g now raw).engine
    after.counters = { e.counters.tally x with
        timeouts := e.counters.timeouts + e.timeoutsOf g now raw } ∧
      after.cache.hits = e.cache.hits + (if x = .served then 1 else 0) ∧
      after.cache.misses = e.cache.misses + (if x.isFetched then 1 else 0) := by
  intro x after
  cases hfetches : e.fetches? now raw with
  | none =>
    cases ha : acceptId raw .outside with
    | error d =>
      have hx : x = .turnedDown := by
        simp [x, ending, hfetches, context_of_error ha, found?, QueryEnding.ofFetched]
      simp only [after, hx, timeoutsOf, hfetches, context, accept, ha, count]
      exact ⟨rfl, rfl, rfl⟩
    | ok a =>
      obtain ⟨c, hpeek⟩ : ∃ c, e.cache.peek? now (a.id.identity e.head) = some c := by
        apply Option.ne_none_iff_exists'.1
        simpa [fetches?, ha] using hfetches
      have hx : x = .served := by simp [x, ending, hfetches, context_of_hit ha hpeek, found?]
      simp only [after, hx, timeoutsOf, hfetches, context, accept, ha, count,
        TimedCache.get_of_hit hpeek]
      exact ⟨rfl, rfl, rfl⟩
  | some id =>
    have hx : x = .ofFetched (e.uncached g id) := ending_of_fetches hfetches
    have hfetched : x.isFetched := hx ▸ e.isFetched_uncached g id
    have hunserved : x ≠ .served := by
      intro hserved
      rw [hserved] at hfetched
      cases hfetched
    obtain ⟨e', hrules, hcounters, hhits, hmisses, hafter⟩ := engine_of_fetches (g := g) hfetches
    have hresult : (e'.fetchContext g now id).result = e.uncached g id :=
      (e'.fetchContext_cases g now id).1.trans (hrules.uncached_eq g id)
    obtain ⟨hsame, hsame'⟩ := e'.hits_fetchContext g now id
    refine ⟨?_, ?_, ?_⟩
    · simp only [after]
      rw [hafter, counters_fetchContext, hresult, ← hx, hcounters, hrules.2.1,
        QueryCounters.tally_of_isFetched _ hfetched, timeoutsOf, hfetches]
      rfl
    · simp only [after]
      rw [hafter, hsame, hhits, if_neg hunserved]
      rfl
    · simp only [after]
      rw [hafter, hsame', hmisses, if_pos hfetched]

theorem uncached_eq_none_iff : e.uncached g id = none ↔
    ∃ l, (g.spans id).within e.timeoutMs = .arrived l ∧ ∃ x ∈ l, x.endTime? = none := by
  constructor
  · intro hnone
    rcases e.uncached_cases g id with ⟨-, hr⟩ | ⟨f, -, hr⟩ | ⟨-, -, hr⟩ | ⟨l, hl, -, hr⟩
    · cases hr.symm.trans hnone
    · cases hr.symm.trans hnone
    · cases hr.symm.trans hnone
    · have hassemble := Option.map_eq_none_iff.1 (hr.symm.trans hnone)
      exact ⟨l, hl, FlowContext.assemble?_eq_none_iff.1 hassemble⟩
  · intro ⟨l, hl, x, hx, hend⟩
    rcases uncached_of_spans hl (List.ne_nil_of_mem hx) with ⟨hnone, -⟩ | ⟨hends, -⟩
    · exact hnone
    · exact absurd hend (hends x hx)

/-- A query has no answer exactly if one of the spans that arrive ends outside the calendar. -/
theorem ending_eq_unanswered_iff : e.ending g now raw = .unanswered ↔
    ∃ id, e.fetches? now raw = some id ∧
      ∃ l, (g.spans id).within e.timeoutMs = .arrived l ∧ ∃ x ∈ l, x.endTime? = none := by
  constructor
  · intro h
    have hnone : (e.context g now raw).result = none := by
      simp only [ending] at h
      split at h
      · cases h
      · exact QueryEnding.eq_none_of_unanswered h
    obtain ⟨-, ⟨d, -, hresult, -⟩ | ⟨a, ha, ⟨c, -, hresult, -⟩ | ⟨hpeek, hresult, -⟩⟩⟩ :=
      e.context_cases g now raw
    · cases hresult.symm.trans hnone
    · cases hresult.symm.trans hnone
    · exact ⟨a.id, fetches?_eq_some_iff.2 ⟨a, ha, hpeek, rfl⟩,
        uncached_eq_none_iff.1 (hresult.symm.trans hnone)⟩
  · intro ⟨id, hid, hend⟩
    rw [ending_of_fetches hid, uncached_eq_none_iff.2 hend]
    rfl

end QueryEngine

namespace QueryEnding

theorem length_eq_add (l : List QueryEnding) :
    l.length = l.count .turnedDown + l.count .served + l.countP isFetched := by
  induction l with
  | nil => rfl
  | cons x l ih => cases x <;> simp [List.countP_cons, ih, isFetched] <;> omega

theorem countP_isFetched (l : List QueryEnding) :
    l.countP isFetched = l.count .absent + (l.count .complete + l.count .degraded) +
      l.count .failed + l.count .overdue + l.count .unanswered := by
  induction l with
  | nil => rfl
  | cons x l ih => cases x <;> simp [List.countP_cons, ih, isFetched] <;> omega

end QueryEnding

/-- Counters that show queries which ended in these ways. -/
structure QueryCounters.Tallies (c : QueryCounters) (ends : List QueryEnding) : Prop where
  requests : c.requests = ends.length
  validationErrors : c.validationErrors = ends.count .turnedDown
  cacheHits : c.cacheHits = ends.count .served
  cacheMisses : c.cacheMisses = ends.countP QueryEnding.isFetched
  notFound : c.notFound = ends.count .absent
  partialResults : c.partialResults = ends.count .degraded
  storageErrors : c.storageErrors = ends.count .failed

theorem QueryCounters.Tallies.concat {c : QueryCounters} {ends : List QueryEnding}
    (h : c.Tallies ends) (x : QueryEnding) (timeouts : Nat) :
    { c.tally x with timeouts := timeouts : QueryCounters }.Tallies (ends ++ [x]) := by
  obtain ⟨h₁, h₂, h₃, h₄, h₅, h₆, h₇⟩ := h
  cases x <;> constructor <;>
    simp [QueryCounters.tally, QueryCounters.settle, QueryEnding.isFetched, List.count_append,
      List.countP_append, h₁, h₂, h₃, h₄, h₅, h₆, h₇]

/-- Whether a call asks for a context or a timeline, or lets time pass. -/
def QueryCall.isForContext : QueryCall → Bool
  | .context _ | .timeline _ | .wait _ => true
  | .spans _ | .logs _ | .invalidate _ => false

namespace QuerySession

variable {e : QueryEngine} {past : List (Gateway × QueryCall)}

def endingOf (s : QuerySession) : Gateway × QueryCall → List QueryEnding
  | (g, .context raw) | (g, .timeline raw) => [s.engine.ending g s.now raw]
  | _ => []

/-- How the queries of a run end. -/
def endings (e : QueryEngine) (past : List (Gateway × QueryCall)) : List QueryEnding :=
  transcript (fun s (g, call) ↦ s.step g call) endingOf { engine := e } past

structure Accounts (s : QuerySession) (ends : List QueryEnding) : Prop where
  tallies : s.engine.counters.Tallies ends
  hits : s.engine.cache.hits = s.engine.counters.cacheHits
  misses : s.engine.cache.misses = s.engine.counters.cacheMisses

theorem Accounts.query {s t : QuerySession} {ends : List QueryEnding} (h : s.Accounts ends)
    (g : Gateway) (raw : String) (ht : t.engine = (s.engine.context g s.now raw).engine) :
    t.Accounts (ends ++ [s.engine.ending g s.now raw]) := by
  obtain ⟨hcounters, hhits, hmisses⟩ := s.engine.context_account g s.now raw
  have htallies := h.tallies.concat (s.engine.ending g s.now raw)
    (s.engine.counters.timeouts + s.engine.timeoutsOf g s.now raw)
  rw [← hcounters] at htallies
  refine ⟨ht ▸ htallies, ?_, ?_⟩
  · rw [ht, hhits, h.hits, h.tallies.cacheHits, htallies.cacheHits, List.count_append,
      List.count_singleton]
    simp [beq_iff_eq]
  · rw [ht, hmisses, h.misses, h.tallies.cacheMisses, htallies.cacheMisses, List.countP_append,
      List.countP_singleton]

theorem Accounts.step {s : QuerySession} {ends : List QueryEnding} (h : s.Accounts ends)
    {p : Gateway × QueryCall} (hp : p.2.isForContext) :
    (s.step p.1 p.2).Accounts (ends ++ s.endingOf p) := by
  obtain ⟨g, call⟩ := p
  cases call with
  | context raw => exact h.query g raw rfl
  | timeline raw => exact h.query g raw rfl
  | wait ms =>
    have hnone : s.endingOf (g, .wait ms) = [] := rfl
    rw [hnone, List.append_nil]
    exact ⟨h.tallies, h.hits, h.misses⟩
  | spans raw => cases hp
  | logs raw => cases hp
  | invalidate raw => cases hp

theorem accounts_run (hcounters : e.counters = {}) (hhits : e.cache.hits = 0)
    (hmisses : e.cache.misses = 0) (hpast : ∀ p ∈ past, p.2.isForContext) :
    (run e past).Accounts (endings e past) := by
  refine transcript_induction past ⟨?_, ?_, ?_⟩
    (fun s p hp ends hs ↦ hs.step (hpast p hp))
  · rw [hcounters]
    exact ⟨rfl, rfl, rfl, rfl, rfl, rfl, rfl⟩
  · rw [hhits, hcounters]
  · rw [hmisses, hcounters]

theorem unanswered_not_mem_endings (h : ∀ p ∈ past, p.1.EndsInCalendar) :
    .unanswered ∉ endings e past := by
  refine transcript_induction
    (P := fun (_ : QuerySession) (ends : List QueryEnding) ↦ .unanswered ∉ ends) past (by simp)
    (fun s p hp ends hends ↦ ?_)
  have hquery (g : Gateway) (raw : String) (hg : g.EndsInCalendar) :
      s.engine.ending g s.now raw ≠ .unanswered := by
    intro hnone
    obtain ⟨id, -, l, hl, x, hx, hend⟩ := QueryEngine.ending_eq_unanswered_iff.1 hnone
    exact hg id _ l hl x hx hend
  obtain ⟨g, call⟩ := p
  rw [List.mem_append, not_or]
  refine ⟨hends, ?_⟩
  cases call with
  | context raw | timeline raw => simpa [endingOf, eq_comm] using hquery g raw (h _ hp)
  | _ => exact List.not_mem_nil

/-- The counters after a run of queries for contexts and timelines, on an engine whose counters and
whose cache began at nothing. Every request was turned down, served from the cache, or missed it.
Every miss shows as a flow of which nothing is recorded, as a context that was put together, as a
storage error, as spans that did not arrive in time, or it had no answer; so the former alone make up
all misses exactly if every request was answered, which it is while all spans end within the
calendar. The partial results are the contexts put together with a warning, and the engine has
counted the same hits and misses as its cache. -/
theorem balance_of_queries (hcounters : e.counters = {}) (hhits : e.cache.hits = 0)
    (hmisses : e.cache.misses = 0) (past : List (Gateway × QueryCall))
    (hpast : ∀ p ∈ past, p.2.isForContext) :
    let s := run e past
    let c := s.engine.counters
    let ends := endings e past
    let told := c.notFound + (ends.count .complete + ends.count .degraded) + c.storageErrors +
      ends.count .overdue
    c.requests = c.validationErrors + c.cacheHits + c.cacheMisses ∧
      c.cacheMisses = told + ends.count .unanswered ∧
      (c.cacheMisses = told ↔ .unanswered ∉ ends) ∧
      ((∀ p ∈ past, p.1.EndsInCalendar) → c.cacheMisses = told) ∧
      c.partialResults = ends.count .degraded ∧
      c.cacheHits = s.engine.cache.hits ∧ c.cacheMisses = s.engine.cache.misses ∧
      c.Tallies ends := by
  intro s c ends told
  obtain ⟨htallies, hh, hm⟩ : s.Accounts ends := accounts_run hcounters hhits hmisses hpast
  have hrequests : c.requests = ends.length := htallies.requests
  have hvalidation : c.validationErrors = ends.count .turnedDown := htallies.validationErrors
  have hserved : c.cacheHits = ends.count .served := htallies.cacheHits
  have hfetched : c.cacheMisses = ends.countP QueryEnding.isFetched := htallies.cacheMisses
  have hnotFound : c.notFound = ends.count .absent := htallies.notFound
  have hstorage : c.storageErrors = ends.count .failed := htallies.storageErrors
  have hlength := QueryEnding.length_eq_add ends
  have hcount := QueryEnding.countP_isFetched ends
  have hmissed : c.cacheMisses = told + ends.count .unanswered := by omega
  have hiff : c.cacheMisses = told ↔ .unanswered ∉ ends := by
    rw [hmissed, ← List.count_eq_zero]
    omega
  exact ⟨by omega, hmissed, hiff, fun hends ↦ hiff.2 (unanswered_not_mem_endings hends),
    htallies.partialResults, hh.symm, hm.symm, htallies⟩

section FlowOne

/-- A flow is asked for while its log entries cannot be fetched, again from the cache, once by a text
that is no id, and after its time to live while its spans do not arrive. -/
theorem balance_of_four_queries :
    let span : SpanRecord := { timestamp := ⟨0, 0⟩, service := "s", name := "n", durationMs := 10 }
    let g : Gateway :=
      { name := "scripted"
        spans := fun _ ↦ .ends 0 (.ok [span])
        logs := fun _ ↦ .ends 0 (.error (.query "no table"))
        metrics := fun _ ↦ .ends 0 (.ok []) }
    let e : QueryEngine := { timeoutMs := 200, cache := { ttlMs := 300000, capacity := 10 } }
    let past : List (Gateway × QueryCall) := [(g, .context "flow-1"), (g, .timeline "flow-1"),
      (g, .context ""), (g, .wait 300000), ({ g with spans := fun _ ↦ .stalls }, .context "flow-1")]
    let c := (run e past).engine.counters
    endings e past = [.degraded, .served, .turnedDown, .overdue] ∧
      c.requests = c.validationErrors + c.cacheHits + c.cacheMisses ∧ c.cacheMisses = 2 ∧
      c.partialResults = 1 ∧ (run e past).engine.cache.hits = 1 := by
  intro span g e past c
  have hends : endings e past = [.degraded, .served, .turnedDown, .overdue] := by decide +kernel
  obtain ⟨hrequests, hmissed, -, -, hpartial, hhits, -, htallies⟩ :=
    balance_of_queries (e := e) rfl rfl rfl past (by decide)
  have hserved := htallies.cacheHits
  rw [hends] at hpartial hserved
  exact ⟨hends, hrequests, htallies.cacheMisses.trans (by rw [hends]; rfl), hpartial,
    hhits.symm.trans hserved⟩

/-- A query that meets a span which takes longer than the calendar is counted as a missed cache, and
as nothing that became of it. -/
theorem not_balance_of_endless_span :
    let span : SpanRecord :=
      { timestamp := ⟨0, 0⟩, service := "s", name := "n", durationMs := 10000000000000000
        attributes := Dict.ofList [("correlation_id", "flow-1")] }
    let g : Gateway := (({} : FlowStore).insert (.span span)).gateway
    let e : QueryEngine := { timeoutMs := 200, cache := { ttlMs := 300000, capacity := 10 } }
    let past : List (Gateway × QueryCall) := [(g, .context "flow-1")]
    let c := (run e past).engine.counters
    let ends := endings e past
    ends = [.unanswered] ∧ c.cacheMisses = 1 ∧
      c.cacheMisses ≠ c.notFound + (ends.count .complete + ends.count .degraded) +
        c.storageErrors + ends.count .overdue := by
  decide +kernel

end FlowOne

end QuerySession

end FlowCorrelation
