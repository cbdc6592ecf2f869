import LoadTest.Text.Cut
import LoadTest.Text.Quoted
import LoadTest.Decimal.Fixed
import LoadTest.Duration.Text
import LoadTest.Threshold.Basic
import LoadTest.Schedule
import LoadTest.Metric.Sample
import LoadTest.Metric.Aggregate
import LoadTest.Json.Reader
import LoadTest.Json.Writer
import LoadTest.Metric.Summary
import LoadTest.Url.Host
import LoadTest.Url.Reference
import LoadTest.Plan.Json
import LoadTest.Plan.Resolve
import LoadTest.Recorder.Feed
import LoadTest.Threshold.Watch
import LoadTest.Metric.Json
import LoadTest.Run.Summary
import LoadTest.Http.Response
import LoadTest.Script.Iteration
import LoadTest.Run.Basic
import LoadTest.Run.Timeline
import LoadTest.Run.Session
import LoadTest.Main
import LoadTest.Gateway.Basic
import LoadTest.Proofs.Schedule.Curve
import LoadTest.Proofs.Float.Rounding
import LoadTest.Proofs.Float.Unpacked
import LoadTest.Proofs.Float.Denotes
import LoadTest.Proofs.Float.Whole
import LoadTest.Proofs.Duration.Seconds
import LoadTest.Proofs.Schedule.Users
import LoadTest.Proofs.Plan.Valid
import LoadTest.Proofs.Run.Pool
import LoadTest.Proofs.Run.Ramp
import LoadTest.Proofs.Metric.SelectorText
import LoadTest.Proofs.Table
import LoadTest.Proofs.Metric.SelectorOrder
import LoadTest.Proofs.Recorder.Recording
import LoadTest.Proofs.Recorder.History
import LoadTest.Proofs.Float.Order
import LoadTest.Proofs.Metric.Percentile
import LoadTest.Proofs.Metric.Recompute
import LoadTest.Proofs.Threshold.Judged
import LoadTest.Proofs.Recorder.Standard
import LoadTest.Proofs.Recorder.Counts
import LoadTest.Proofs.Run.Scripted
import LoadTest.Proofs.Run.Conservation
import LoadTest.Proofs.Run.Busy
import LoadTest.Proofs.Recorder.Kinds
import LoadTest.Proofs.Recorder.Refusal
import LoadTest.Proofs.Recorder.Taken
import LoadTest.Proofs.Recorder.Order
import LoadTest.Proofs.Sequence
import LoadTest.Proofs.Text.Placeholder
import LoadTest.Proofs.Script.Prepare
import LoadTest.Proofs.Http.Headers
import LoadTest.Proofs.Plan.Accepted
import LoadTest.Proofs.Run.Played
import LoadTest.Proofs.Script.Iteration
import LoadTest.Proofs.Script.Response
import LoadTest.Proofs.Script.Visit
import LoadTest.Proofs.Recorder.Arrivals
import LoadTest.Proofs.Run.Rounds
import LoadTest.Proofs.Run.Turns
import LoadTest.Proofs.Run.Deposits
import LoadTest.Proofs.Run.Orderly
import LoadTest.Proofs.Run.Cap
import LoadTest.Proofs.Duration.Text
import LoadTest.Proofs.Command.Stages
import LoadTest.Proofs.Json.NumberText
import LoadTest.Proofs.Json.Scan
import LoadTest.Proofs.Float.Finite
import LoadTest.Proofs.Json.Numbers
import LoadTest.Proofs.Json.Survival
import LoadTest.Proofs.Json.Records
import LoadTest.Proofs.Plan.Survival
import LoadTest.Proofs.Plan.Durations
import LoadTest.Proofs.Run.Ending
import LoadTest.Proofs.Run.VirtualTime
import LoadTest.Proofs.Run.Timers
import LoadTest.Proofs.Run.Loaded
import LoadTest.Proofs.Float.Levels
import LoadTest.Proofs.Float.Sorted
import LoadTest.Proofs.Recorder.Growth
import LoadTest.Proofs.Threshold.Lasting
import LoadTest.Proofs.Run.Aborted
import LoadTest.Proofs.Threshold.Watching
import LoadTest.Proofs.Run.Watched
import LoadTest.Proofs.Plan.Strict
import LoadTest.Proofs.Text.Trimmed
import LoadTest.Proofs.Decimal.LiteralText
import LoadTest.Proofs.Threshold.Grammar
import LoadTest.Proofs.Decimal.Shortest
import LoadTest.Proofs.Float.Scientific
import LoadTest.Proofs.Decimal.Shown
import LoadTest.Proofs.Threshold.RoundTrip
import LoadTest.Proofs.Metric.SelectorSurvival
import LoadTest.Proofs.Text.Decomposition
import LoadTest.Proofs.Script.Rendering
import LoadTest.Proofs.Plan.Expansion
import LoadTest.Proofs.Plan.Substitution
import LoadTest.Proofs.Run.ResultSurvival
import LoadTest.Proofs.Run.Export
import LoadTest.Proofs.Metric.Interpolation
import LoadTest.Proofs.Http.Precedence
