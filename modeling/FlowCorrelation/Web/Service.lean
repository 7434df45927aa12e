import FlowCorrelation.About
import FlowCorrelation.Cause.Investigation
import FlowCorrelation.Context.Json
import FlowCorrelation.Query.Engine
import FlowCorrelation.ValueGuard
import FlowCorrelation.Web.AnalysisRequest
import FlowCorrelation.Web.Message

namespace FlowCorrelation

def GuardEntry.toJson (e : GuardEntry) : Json :=
  .object [("attribute", .text e.name), ("live_values", .ofNat e.liveValues), ("limit", .ofNat e.limit),
    ("rejections", .ofNat e.refusals)]

def ValueGuard.members (g : ValueGuard) : Json.Members :=
  [("total_rejections", .ofNat g.refusals), ("attributes", .list (g.entries.map GuardEntry.toJson))]

namespace Web

inductive Route where
  | context (segment : String)
  | timeline (segment : String)
  | spans (segment : String)
  | logs (segment : String)
  | analysis
  | guard
  | counters
  | exposition
  | health
deriving DecidableEq, Repr

namespace Route

def ofSegments? : List String → Option Route
  | ["rca"] => some .analysis
  | ["api", "cardinality"] => some .guard
  | ["api", "metrics"] => some .counters
  | ["metrics"] => some .exposition
  | ["api", "health"] => some .health
  | "correlate" :: segment :: rest =>
    if segment.isEmpty then none
    else match rest with
      | [] => some (.context segment)
      | ["timeline"] => some (.timeline segment)
      | ["traces"] => some (.spans segment)
      | ["logs"] => some (.logs segment)
      | _ => none
  | _ => none

def ofPath? : List Char → Option Route
  | '/' :: r => ofSegments? ((Text.splitAll (· = '/') r).map String.ofList)
  | _ => none

def allows (r : Route) (method : String) : Bool :=
  if r = .analysis then method = "POST" else method = "GET" || method = "HEAD"

end Route

structure Service where
  engine : QueryEngine
  investigator : Investigator := {}
  enrichment : EnrichmentCounters := {}
  analysis : AnalysisCounters := {}
  guard : Option ValueGuard := none

structure Reply where
  service : Service
  response : Response
  notices : List Notice := []
  elapsedMs : Nat := 0

def refusal (f : QueryFault) : Response :=
  let status := match f with
    | .invalid _ => 400
    | .timeout _ => 504
    | .storage _ => 502
  .error status f.message

def refusalNotices : QueryFault → List Notice
  | .storage f => [.error s!"Storage error: {f.message}"]
  | _ => []

def notFound : Response := .error 404 "correlation not found"

namespace Service

def counters (w : Service) : Counters := ⟨w.enrichment, w.engine.counters, w.analysis⟩

def answered {α : Type} (w : Service) (q : QueryAnswer α) (present : α → Response) : Reply :=
  let w := { w with engine := q.engine }
  match q.result with
  | none => ⟨w, .bare 500, q.notices, q.elapsedMs⟩
  | some (.ok a) => ⟨w, present a, q.notices, q.elapsedMs⟩
  | some (.error f) => ⟨w, refusal f, q.notices ++ refusalNotices f, q.elapsedMs⟩

def aboutFlow {α : Type} (w : Service) (raw : String) (ask : QueryEngine → String → QueryAnswer α)
    (present : FlowId → α → Response) : Reply :=
  match w.engine.accept raw with
  | (e, .error f) =>
    ⟨{ w with engine := e }, refusal f, QueryEngine.acceptNotices raw ++ refusalNotices f, 0⟩
  | (e, .ok id) =>
    let r := { w with engine := e }.answered (ask e id.text) (present id)
    { r with notices := QueryEngine.acceptNotices raw ++ r.notices }

def listing (name : String) (id : FlowId) (l : List Json) : Response :=
  .json 200 (.object [("correlation_id", .text id.text), ("count", .ofNat l.length), (name, .list l)])

def analyze (w : Service) (g : Gateway) (now : Nat) (raw : String) : Reply :=
  let q := w.engine.context g now raw
  let found := w.answered q (fun _ ↦ notFound)
  match q.result with
  | some (.ok (some c)) => match w.investigator.run? c with
    | some i =>
      { found with
        service := { found.service with analysis := w.analysis.record i }
        response := .json 200 i.finding.toJson
        notices := found.notices ++ i.notices }
    | none => { found with response := .bare 500 }
  | _ => found

def health : Json :=
  .object [("status", .text "healthy"), ("service", .text productName),
    ("version", .text FlowCorrelation.version)]

def guardState (w : Service) : Json :=
  match w.guard with
  | some g => .object (("enabled", .bool true) :: g.members)
  | none => .object [("enabled", .bool false)]

def named (w : Service) (segment : String) (reply : String → Reply) : Reply :=
  match decoded? segment.toList with
  | some raw => reply raw
  | none => { service := w, response := .bare 400 }

def posted (w : Service) (r : Request) (reply : String → Reply) : Reply :=
  if !r.contentType.any isJsonType then { service := w, response := .bare 415 }
  else match requestedId r.body with
    | .ok raw => reply raw
    | .error .malformed => { service := w, response := .bare 400 }
    | .error .unsuitable => { service := w, response := .bare 422 }

def serve (w : Service) (g : Gateway) (now uptime : Nat) (r : Request) : Route → Reply
  | .context segment => w.named segment fun raw ↦
    w.answered (w.engine.context g now raw) fun c ↦ match c with
      | some c => .json 200 c.toJson
      | none => notFound
  | .timeline segment => w.named segment fun raw ↦
    w.aboutFlow raw (fun e ↦ e.timeline g now) fun id t ↦ match t with
      | some l => listing "timeline" id (l.map TimelineEvent.toJson)
      | none => notFound
  | .spans segment => w.named segment fun raw ↦
    w.aboutFlow raw (fun e ↦ e.spans g) fun id l ↦ listing "spans" id (l.map SpanRecord.toJson)
  | .logs segment => w.named segment fun raw ↦
    w.aboutFlow raw (fun e ↦ e.logs g) fun id l ↦ listing "logs" id (l.map LogEntry.toJson)
  | .analysis => w.posted r (w.analyze g now)
  | .guard => { service := w, response := .json 200 w.guardState }
  | .counters => { service := w, response := .json 200 (w.counters.toJson uptime) }
  | .exposition =>
    { service := w
      response := ⟨200, some "text/plain; version=0.0.4", .text (w.counters.toPrometheus uptime)⟩ }
  | .health => { service := w, response := .json 200 health }

/-- Replies to a request. Any origin may ask for the options of any path; a request for the head of
a response gets no body. -/
def respond (w : Service) (g : Gateway) (now uptime : Nat) (r : Request) : Reply :=
  if r.method = "OPTIONS" then { service := w, response := .bare 200 }
  else match (path? r.target).bind Route.ofPath? with
    | none => { service := w, response := .bare 404 }
    | some route =>
      if route.allows r.method then
        let reply := w.serve g now uptime r route
        if r.method = "HEAD" then { reply with response := reply.response.withoutBody } else reply
      else { service := w, response := .bare 405 }

end Service

end Web

end FlowCorrelation
