import FlowCorrelation.Calendar.SpanText
import FlowCorrelation.Cause.Narrator
import FlowCorrelation.Counters

namespace FlowCorrelation

structure Investigator where
  cause : CauseSettings := {}
  anomaly : AnomalySettings := {}
  narrator : Option Narrator := none
  timeoutMs : Nat := 3000

inductive NarratorOutcome where
  | told (text : String)
  | failed (f : NarratorFault)
  | tooLate
deriving DecidableEq, Repr

structure Investigation where
  finding : Finding
  narration : Option NarratorOutcome := none
  notices : List Notice := []

namespace Narration

def within (timeoutMs : Nat) : Narration → NarratorOutcome
  | .answered afterMs text =>
    if afterMs ≤ timeoutMs then
      match text with
      | .ok t => .told t
      | .error f => .failed f
    else .tooLate
  | .silent => .tooLate

end Narration

namespace NarratorOutcome

def text? : NarratorOutcome → Option String
  | .told t => some t
  | _ => none

def notices (name : String) (timeoutMs : Nat) : NarratorOutcome → List Notice
  | .told _ => []
  | .failed f => [.warn s!"Narrator {name} failed: {f.message}"]
  | .tooLate => [.warn s!"Narrator {name} timed out after {millisText timeoutMs}"]

end NarratorOutcome

namespace Investigator

def ask (i : Investigator) (r : Report) : Option NarratorOutcome :=
  i.narrator.map (fun n ↦ (n.explain r).within i.timeoutMs)

def notices (i : Investigator) (flow : String) (narration : Option NarratorOutcome) :
    Finding → List Notice
  | .conclusive r =>
    .info s!"Root cause for {r.flow}: {r.service} ({Numeral.fixed 0 (r.confidence * 100)}%)" ::
      match i.narrator, narration with
      | some n, some o => o.notices n.name i.timeoutMs
      | _, _ => []
  | .inconclusive reason _ _ => [.info s!"Inconclusive analysis for {flow}: {reason}"]

def narrate (narration : Option NarratorOutcome) : Finding → Finding
  | .conclusive r => .conclusive { r with narrative := narration.bind NarratorOutcome.text? }
  | f => f

def run? (i : Investigator) (c : FlowContext) : Option Investigation :=
  (Verdict.ofContext? c i.cause i.anomaly).map (fun v ↦
    let finding := Finding.ofVerdict c.id i.cause.threshold v
    let narration := finding.report?.bind i.ask
    { finding := narrate narration finding
      narration := narration
      notices := v.notices c.id ++ i.notices c.id narration finding })

end Investigator

namespace AnalysisCounters

def record (c : AnalysisCounters) (i : Investigation) : AnalysisCounters where
  runs := c.runs + 1
  conclusive := if i.finding.isConclusive then c.conclusive + 1 else c.conclusive
  inconclusive := if i.finding.isConclusive then c.inconclusive else c.inconclusive + 1
  narratorSuccess := if (i.narration.bind NarratorOutcome.text?).isSome then c.narratorSuccess + 1
    else c.narratorSuccess
  narratorFailures := if i.narration.any (·.text?.isNone) then c.narratorFailures + 1
    else c.narratorFailures

end AnalysisCounters

end FlowCorrelation
