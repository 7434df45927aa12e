import FlowCorrelation.Cause.Report

namespace FlowCorrelation

inductive NarratorFault where
  | network (reason : String)
  | refused (status : Nat) (message : String)
  | noText
  | misconfigured (reason : String)
deriving DecidableEq, Repr

def NarratorFault.message : NarratorFault → String
  | .network reason => s!"Network error: {reason}"
  | .refused status message => s!"Narrator returned {status}: {message}"
  | .noText => "Narrator returned no text"
  | .misconfigured reason => s!"Narrator configuration error: {reason}"

inductive Narration where
  | answered (afterMs : Nat) (text : Except NarratorFault String)
  | silent

structure Narrator where
  name : String
  explain : Report → Narration

namespace Narrator

def fixed (text : String) : Narrator := ⟨"static", fun _ ↦ .answered 0 (.ok text)⟩

end Narrator

namespace Report

def prompt (r : Report) : String :=
  s!"Correlation id: {r.flow}\nRoot cause service: {r.service}" ++
    (r.metric.map (fun m ↦ s!" (metric {m})")).getD "" ++
    s!"\nConfidence: {Numeral.fixed 0 (r.confidence * 100)}%\n" ++
    (if r.chain.interpretation = "" then "" else s!"Causal chain: {r.chain.interpretation}\n") ++
    (r.counterfactual.map (fun c ↦ s!"Counterfactual: {c}\n")).getD ""

end Report

structure ChatNarrator where
  endpoint : String
  model : String
  apiKey : Option String
  maxTokens : Nat
deriving DecidableEq, Repr

namespace ChatNarrator

def instructions : String :=
  "You explain a root-cause analysis that has already been decided. " ++
  "Restate the given root cause, causal chain and counterfactual in two or three plain sentences " ++
  "for an on-call engineer. Do not suggest any other cause and do not add facts that are not given."

/-- The narrator of the settings; it needs an endpoint. -/
def ofSettings (s : NarratorSettings) : Except NarratorFault ChatNarrator :=
  if Text.trim s.endpoint.toList = [] then .error (.misconfigured "endpoint is empty")
  else .ok ⟨s.endpoint, s.model, s.apiKey, s.maxTokens⟩

def request (n : ChatNarrator) (r : Report) : Json :=
  .object [
    ("model", .text n.model),
    ("messages", .list [
      .object [("role", .text "system"), ("content", .text instructions)],
      .object [("role", .text "user"), ("content", .text r.prompt)]]),
    ("max_tokens", .ofNat n.maxTokens), ("temperature", .real 0.2)]

def notice (n : ChatNarrator) (r : Report) : Notice :=
  .debug s!"Requesting narrative for {r.flow} from {n.endpoint}"

def narrator (n : ChatNarrator) (send : Json → Narration) : Narrator :=
  ⟨"llm", fun r ↦ send (n.request r)⟩

end ChatNarrator

end FlowCorrelation
