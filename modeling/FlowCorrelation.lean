import FlowCorrelation.About
import FlowCorrelation.Anomaly
import FlowCorrelation.Calendar.Chronology
import FlowCorrelation.Calendar.Date
import FlowCorrelation.Calendar.Instant
import FlowCorrelation.Calendar.SpanText
import FlowCorrelation.Calendar.Timestamp
import FlowCorrelation.Cause.Buckets
import FlowCorrelation.Cause.Chain
import FlowCorrelation.Cause.Effect
import FlowCorrelation.Cause.Event
import FlowCorrelation.Cause.Investigation
import FlowCorrelation.Cause.Narrator
import FlowCorrelation.Cause.Path
import FlowCorrelation.Cause.Report
import FlowCorrelation.Cause.Verdict
import FlowCorrelation.Command.Argument
import FlowCorrelation.Command.Invocation
import FlowCorrelation.Command.Log
import FlowCorrelation.Command.Run
import FlowCorrelation.Context.Basic
import FlowCorrelation.Context.Json
import FlowCorrelation.Context.ServiceCall
import FlowCorrelation.Context.Timeline
import FlowCorrelation.Counters
import FlowCorrelation.Delivery.Broadcast
import FlowCorrelation.Delivery.Pipeline
import FlowCorrelation.Delivery.Plugin
import FlowCorrelation.Dict
import FlowCorrelation.Disk
import FlowCorrelation.Enrichment.Baggage
import FlowCorrelation.Enrichment.Digest
import FlowCorrelation.Enrichment.Enricher
import FlowCorrelation.Enrichment.Resolution
import FlowCorrelation.FlowId.Base36
import FlowCorrelation.FlowId.Basic
import FlowCorrelation.FlowId.Identity
import FlowCorrelation.FlowId.Json
import FlowCorrelation.FlowStore
import FlowCorrelation.Journal
import FlowCorrelation.Json.Basic
import FlowCorrelation.Json.Fields
import FlowCorrelation.Json.Reader
import FlowCorrelation.Json.Skip
import FlowCorrelation.Json.Writer
import FlowCorrelation.Main
import FlowCorrelation.Numeral.Decimal
import FlowCorrelation.Numeral.Double
import FlowCorrelation.Numeral.Scalar
import FlowCorrelation.Numeral.Word
import FlowCorrelation.Proofs.Anomaly
import FlowCorrelation.Proofs.Calendar.Backdating
import FlowCorrelation.Proofs.Calendar.Extent
import FlowCorrelation.Proofs.Calendar.Stability
import FlowCorrelation.Proofs.Cause.Accusation
import FlowCorrelation.Proofs.Cause.Adjustment
import FlowCorrelation.Proofs.Cause.ChainScore
import FlowCorrelation.Proofs.Cause.ErrorRate
import FlowCorrelation.Proofs.Cause.Estimate
import FlowCorrelation.Proofs.Cause.Incident
import FlowCorrelation.Proofs.Cause.Narration
import FlowCorrelation.Proofs.Cause.Optimality
import FlowCorrelation.Proofs.Cause.Path
import FlowCorrelation.Proofs.Cause.Ranking
import FlowCorrelation.Proofs.Cause.Route
import FlowCorrelation.Proofs.Cause.Stratified
import FlowCorrelation.Proofs.Cause.Support
import FlowCorrelation.Proofs.Context.Agreement
import FlowCorrelation.Proofs.Context.Assembly
import FlowCorrelation.Proofs.Context.CallCount
import FlowCorrelation.Proofs.Context.Coverage
import FlowCorrelation.Proofs.Context.Overrun
import FlowCorrelation.Proofs.Context.ServiceCall
import FlowCorrelation.Proofs.Context.Timeline
import FlowCorrelation.Proofs.Delivery.Lifetime
import FlowCorrelation.Proofs.Delivery.Loop
import FlowCorrelation.Proofs.Delivery.Recording
import FlowCorrelation.Proofs.Delivery.Window
import FlowCorrelation.Proofs.Disk
import FlowCorrelation.Proofs.Enrichment.Attributes
import FlowCorrelation.Proofs.Enrichment.Baggage
import FlowCorrelation.Proofs.Enrichment.Balance
import FlowCorrelation.Proofs.Enrichment.Convergence
import FlowCorrelation.Proofs.Enrichment.Emission
import FlowCorrelation.Proofs.Enrichment.Filing
import FlowCorrelation.Proofs.Enrichment.Frame
import FlowCorrelation.Proofs.Enrichment.Outcome
import FlowCorrelation.Proofs.Enrichment.Passage
import FlowCorrelation.Proofs.Enrichment.Persistence
import FlowCorrelation.Proofs.Enrichment.Precedence
import FlowCorrelation.Proofs.Enrichment.Redaction
import FlowCorrelation.Proofs.Enrichment.Reprocessing
import FlowCorrelation.Proofs.Enrichment.Stalling
import FlowCorrelation.Proofs.Enrichment.Stamping
import FlowCorrelation.Proofs.FlowId.Acceptance
import FlowCorrelation.Proofs.FlowId.Canonical
import FlowCorrelation.Proofs.FlowId.Head
import FlowCorrelation.Proofs.FlowId.Repair
import FlowCorrelation.Proofs.FlowId.Sharing
import FlowCorrelation.Proofs.FlowId.Stamp
import FlowCorrelation.Proofs.FlowStore.Ledger
import FlowCorrelation.Proofs.FlowStore.Retention
import FlowCorrelation.Proofs.FlowStore.Retrieval
import FlowCorrelation.Proofs.Json.Fields
import FlowCorrelation.Proofs.Json.Numeral
import FlowCorrelation.Proofs.Json.RoundTrip
import FlowCorrelation.Proofs.KeySet
import FlowCorrelation.Proofs.Numeral.Mean
import FlowCorrelation.Proofs.Query.Answer
import FlowCorrelation.Proofs.Query.Cache
import FlowCorrelation.Proofs.Query.CacheHistory
import FlowCorrelation.Proofs.Query.Endurance
import FlowCorrelation.Proofs.Query.Eviction
import FlowCorrelation.Proofs.Query.FailurePolicy
import FlowCorrelation.Proofs.Query.Lateness
import FlowCorrelation.Proofs.Query.Reunion
import FlowCorrelation.Proofs.Query.Session
import FlowCorrelation.Proofs.Query.Tally
import FlowCorrelation.Proofs.Query.Transparency
import FlowCorrelation.Proofs.Record.Reading
import FlowCorrelation.Proofs.Record.RoundTrip
import FlowCorrelation.Proofs.Record.Writing
import FlowCorrelation.Proofs.ServiceGraph
import FlowCorrelation.Proofs.Total
import FlowCorrelation.Proofs.Transcript
import FlowCorrelation.Proofs.UrlSegments
import FlowCorrelation.Proofs.ValueGuard.Memory
import FlowCorrelation.Proofs.ValueGuard.Refusals
import FlowCorrelation.Proofs.ValueGuard.Run
import FlowCorrelation.Proofs.ValueGuard.SlidingWindow
import FlowCorrelation.Query.Cache
import FlowCorrelation.Query.Engine
import FlowCorrelation.Query.Gateway
import FlowCorrelation.Record.Basic
import FlowCorrelation.Record.File
import FlowCorrelation.Record.Json
import FlowCorrelation.ServiceGraph
import FlowCorrelation.Settings.Basic
import FlowCorrelation.Settings.Check
import FlowCorrelation.Settings.File
import FlowCorrelation.Settings.Json
import FlowCorrelation.Text.Blank
import FlowCorrelation.Text.Cased
import FlowCorrelation.Text.DecimalDigit
import FlowCorrelation.Text.Lowercase
import FlowCorrelation.Text.Quoted
import FlowCorrelation.Text.Runs
import FlowCorrelation.Text.Split
import FlowCorrelation.Text.Unprintable
import FlowCorrelation.Toml.Reader
import FlowCorrelation.Toml.Table
import FlowCorrelation.Toml.Writer
import FlowCorrelation.UrlTemplate
import FlowCorrelation.ValueGuard
import FlowCorrelation.Web.AnalysisRequest
import FlowCorrelation.Web.Message
import FlowCorrelation.Web.Service
import FlowCorrelation.Web.Target
import FlowCorrelation.Proofs.Cause.Counting
import FlowCorrelation.Proofs.Cause.Marking
import FlowCorrelation.Proofs.FlowId.StampTime
import FlowCorrelation.Proofs.Cause.Alignment
