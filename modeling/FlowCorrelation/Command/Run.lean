import FlowCorrelation.Cause.Investigation
import FlowCorrelation.Command.Invocation
import FlowCorrelation.Command.Log
import FlowCorrelation.Context.Json
import FlowCorrelation.Delivery.Pipeline
import FlowCorrelation.Query.Engine
import FlowCorrelation.Record.File

namespace FlowCorrelation.Command

/-- What a run finds around it besides the disk. -/
structure Surroundings where
  environment : Variables := ∅
  now : Instant
  /-- The random bytes for each batch of records and each place in it. -/
  random : Nat → Nat → List UInt8
  ask : ChatNarrator → Json → Narration
  obstacle? : String → Option String

structure Failure where
  summary : String
  causes : List String := []
deriving DecidableEq, Repr

namespace Failure

def causeLines : List String → String
  | [] => ""
  | [c] => s!"\nCaused by:\n    {c}\n"
  | l => "\nCaused by:\n" ++ String.join (l.mapIdx (fun i c ↦ s!"    {i}: {c}\n"))

def report (f : Failure) : String := s!"Error: {f.summary}\n" ++ causeLines f.causes

def io (f : DiskFault) : Failure := ⟨(StorageFault.io f.message).message, [f.message]⟩

def reading (path : String) (f : DiskFault) : Failure :=
  ⟨s!"reading {path}", (io f).summary :: (io f).causes⟩

def query (f : QueryFault) : Failure :=
  ⟨f.message, match f with
    | .invalid d => [d.message]
    | .storage f => [f.message]
    | .timeout _ => []⟩

end Failure

inductive Ending where
  | done
  | failed (f : Failure)
  | misused
  | crashed
deriving DecidableEq, Repr

def Ending.code : Ending → Nat
  | .done => 0
  | .failed _ => 1
  | .misused => 2
  | .crashed => 101

structure Outcome where
  ending : Ending := .done
  output : String := ""
  journal : List Notice := []
  parting : Option (List Notice) := none
  jsonLog : Bool := false

namespace Outcome

def failed (f : Failure) (said : List Notice) : Outcome := { ending := .failed f, journal := said }

def after (said : List Notice) (o : Outcome) : Outcome := { o with journal := said ++ o.journal }

def notices (o : Outcome) : List Notice := o.journal ++ o.parting.getD []

def complaint (o : Outcome) : String :=
  match o.ending with
  | .failed f => f.report
  | .misused => misuseText
  | _ => ""

def filtered (f : LogFilter) (o : Outcome) : Outcome :=
  let keep (l : List Notice) := l.filter (fun n ↦ f.shows productName n.level)
  { o with journal := keep o.journal, parting := o.parting.map keep }

end Outcome

/-- The state of a pipeline from files of records to a store. -/
abbrev Intake := PipelineState (Option Enricher × EnrichmentCounters) FlowStore

namespace Intake

def ofSettings (s : Settings) (retentionSecs : Nat) : Intake where
  processing := (some (Enricher.ofSettings s.ids s.guard), {})
  storing := ({ attributeName := s.ids.attributeName, head := s.ids.head } : FlowStore).withRetention
    retentionSecs

def pipeline (w : Surroundings) (batch : Nat) :
    Pipeline (Option Enricher × EnrichmentCounters) FlowStore where
  processors := [Enricher.processor ⟨Prod.fst, fun p e ↦ (e, p.2)⟩ ⟨Prod.snd, fun p c ↦ (p.1, c)⟩
    w.now (w.random batch)]
  sinks := [FlowStore.sink .whole]

def add (w : Surroundings) (batch : Nat) (x : Intake) (records : List Record) : Intake :=
  ((pipeline w batch).runBatch x records).1

def isCrashed (x : Intake) : Bool := x.processing.1.isNone

end Intake

def investigatorOf (w : Surroundings) (s : Settings) : Investigator × List Notice :=
  let i : Investigator := { cause := s.cause, anomaly := s.anomaly, timeoutMs := s.narrator.timeoutMs }
  if s.narrator.enabled then
    match ChatNarrator.ofSettings s.narrator with
    | .ok n => ({ i with narrator := some (n.narrator (w.ask n)) },
        [.info s!"Narrator enabled: {n.model} ({n.endpoint})"])
    | .error f => (i, [.warn s!"Narrator disabled: {f.message}"])
  else (i, [])

def enrichmentText (written : Nat) (output : String) (c : EnrichmentCounters) : String :=
  s!"Enriched {written} records into {output}\n" ++
    s!"  existing {c.idsExisting}, extracted {c.idsExtracted}, derived {c.idsDerived}, " ++
    s!"generated {c.idsGenerated}, sanitized {c.idsSanitized}, rejected {c.idsRejected}\n" ++
    s!"  exemplars linked {c.exemplarsLinked}, attributes dropped {c.attributesDropped}, " ++
    s!"guard rejections {c.guardRejections}\n"

def servingSettings (s : Settings) (dataFiles : List String) (host : Option String)
    (port : Option Nat) : Settings :=
  { s with
    web := { s.web with host := host.getD s.web.host, port := port.getD s.web.port }
    store := { s.store with dataFiles := s.store.dataFiles ++ dataFiles } }

def servingNotices (address : String) : List Notice := [
  .info s!"Correlation API available at http://{address}",
  .info ("  - Contexts at /correlate/" ++ String.ofList ['\x7b', 'i', 'd', '\x7d']),
  .info "  - Root-cause analysis at POST /rca",
  .info "  - Metrics at /metrics"]

def servingOutcome (w : Surroundings) (s : Settings) : Outcome :=
  let stopped : Notice := .info "OllyStack stopped"
  if s.web.enabled then
    let address := s!"{s.web.host}:{s.web.port}"
    match w.obstacle? address with
    | some reason =>
      { journal := servingNotices address ++ [.error s!"Web server error: {reason}", stopped] }
    | none =>
      { journal := servingNotices address
        parting := some [.info "Shutdown signal received", stopped] }
  else { journal := [.info "HTTP API disabled; waiting for Ctrl+C"], parting := some [stopped] }

variable {m : Type → Type} [Monad m] [MonadDisk m]

def enrichFile (w : Surroundings) (s : Settings) (input output : String) : m Outcome := do
  let reading ← readRecords input
  match reading.result with
  | .error f => return .failed (.reading input f) reading.notices
  | .ok records =>
    let e := (Enricher.ofSettings s.ids s.guard).process {} w.now (w.random 0) records
    let said := reading.notices ++ e.notices
    match e.result with
    | none => return { ending := .crashed, journal := said }
    | some batch =>
      let (written, more) ← writeRecords output batch
      return match written with
        | .error f => .failed (.io f) (said ++ more)
        | .ok x => { output := enrichmentText x.written output e.counters, journal := said ++ more }

def withContext (w : Surroundings) (s : Settings) (input id : String)
    (next : FlowContext → Outcome) : m Outcome := do
  let reading ← readRecords input
  return .after reading.notices (match reading.result with
    | .error f => .failed (.reading input f) []
    | .ok records =>
      let x := Intake.add w 0 (Intake.ofSettings s 0) records
      if x.isCrashed then { ending := .crashed, journal := x.journal } else
      let q := (QueryEngine.ofSettings s.query s.anomaly s.ids.head).context x.storing.gateway 0 id
      .after (x.journal ++ q.notices) (match q.result with
        | none => { ending := .crashed }
        | some (.error f) => .failed (.query f) []
        | some (.ok none) => .failed ⟨s!"no telemetry found for correlation id {id}", []⟩ []
        | some (.ok (some c)) => next c))

def correlateFlow (w : Surroundings) (s : Settings) (input id : String) (timelineOnly : Bool) : m Outcome :=
  withContext w s input id fun c ↦
    let j := if timelineOnly then .list (c.timeline.map TimelineEvent.toJson) else c.toJson
    { output := j.pretty ++ "\n" }

def analyzeFlow (w : Surroundings) (s : Settings) (input id : String) : m Outcome :=
  withContext w s input id fun c ↦
    let (i, said) := investigatorOf w s
    .after said (match i.run? c with
      | none => { ending := .crashed }
      | some x => { output := x.finding.toJson.pretty ++ "\n", journal := x.notices })

def showStatus (w : Surroundings) (s : Settings) : m Outcome := do
  let place ← match Settings.userPath? w.environment with
    | some path => do
      let found ← pathExists path
      pure (path ++ if found then " (found)" else " (not found)")
    | none => pure "unavailable"
  let text := s!"\nOllyStack v{version}\n\nUser config: {place}\n\nEffective configuration:\n\n"
  return match s.render? with
    | some document => { output := text ++ document ++ "\n" }
    | none => { output := text, ending := .failed ⟨"out-of-range value for u64 type", []⟩ }

/-- Takes in files of records until the enricher is gone; one that cannot be read is passed over. -/
def intakeFiles (w : Surroundings) : Nat → Intake → List String → m Intake
  | _, x, [] => return x
  | batch, x, file :: files => do
    let reading ← readRecords file
    let x := x.say reading.notices
    match reading.result with
    | .error f =>
      intakeFiles w (batch + 1)
        (x.say [.error s!"Failed to load {file}: {(StorageFault.io f.message).message}"]) files
    | .ok records =>
      let x := Intake.add w batch x records
      if x.isCrashed then return x
      else intakeFiles w (batch + 1) (x.say [.info s!"Ingested {records.length} records from {file}"]) files

def serveFiles (w : Surroundings) (s : Settings) : m Outcome := do
  let x ← intakeFiles w 0 (Intake.ofSettings s s.store.retentionSecs) s.store.dataFiles
  let store := x.storing
  let said := [.info s!"Starting OllyStack v{version}"] ++ x.journal
  if x.isCrashed then return { ending := .crashed, journal := said }
  return .after (said ++
      [.info (s!"Store holds {store.stored} records across {store.flowCount} correlation ids " ++
        s!"({store.unindexed} without id)")] ++ (investigatorOf w s).2)
    (servingOutcome w s)

def Action.perform (w : Surroundings) (s : Settings) : Action → m Outcome
  | .serve dataFiles host port => serveFiles w (servingSettings s dataFiles host port)
  | .enrich input output => enrichFile w s input output
  | .correlate input id timelineOnly => correlateFlow w s input id timelineOnly
  | .analyze input id => analyzeFlow w s input id
  | .status => showStatus w s

def filterVariable : String := "RUST_LOG"

def variableNames : List String :=
  [filterVariable, settingsVariable, "XDG_CONFIG_HOME", "HOME"] ++ Settings.overrides.map Prod.fst

def Invocation.run (w : Surroundings) (i : Invocation) : m Outcome := do
  let (loaded, _) ← Settings.load i.settings w.environment
  let (s, said) := match loaded with
    | .ok s => (s, [])
    | .error f => ({}, [.warn s!"Failed to load configuration: {f.message}, using defaults"])
  let o ← i.action.perform w s
  let filter := LogFilter.chosen (Dict.get? w.environment filterVariable) i.verbosity s.logging
  return { (o.after said).filtered filter with
    jsonLog := i.logFormat.getD s.logging.format = "json" }

def run (w : Surroundings) (args : List String) : m Outcome := do
  match Request.read (Dict.get? w.environment settingsVariable) args with
  | .run i => i.run w
  | .show text => return { output := text }
  | .misuse => return { ending := .misused }

end FlowCorrelation.Command
