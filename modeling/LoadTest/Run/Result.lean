/-
**The result of a run.**

How a run ended, what its metrics and checks came to, and the verdicts of its thresholds. A run
passes if all thresholds do.

* `RunResult.isPassed` and `RunResult.exitCode`: the verdict on the run;
* `RunResult.json` and `RunResult.reader`: writing and reading.
-/

import LoadTest.Threshold.Verdict
import LoadTest.Metric.Summary

namespace LoadTest

open Json (Reader)
open Decimal

/-- How a run ended. -/
inductive RunStatus where
  /-- all stages ran to the end -/
  | completed
  /-- stopped early from outside or by a deadline -/
  | interrupted
  /-- stopped early by a threshold -/
  | abortedByThreshold
deriving DecidableEq, Inhabited

/-- How the status is written. -/
def RunStatus.name : RunStatus → String
  | completed => "completed"
  | interrupted => "interrupted"
  | abortedByThreshold => "aborted_by_threshold"

/-- The status that a name stands for. -/
def RunStatus.ofName? (text : String) : Option RunStatus :=
  [completed, interrupted, abortedByThreshold].find? fun status => status.name = text

/-- The verdict and the figures of a run. -/
structure RunResult where
  name : String
  status : RunStatus
  duration : Duration
  iterations : Nat
  /-- The most users that ran at the same time. -/
  peakUsers : Nat
  metrics : Table MetricSummary
  checks : Table CheckTally
  thresholds : List ThresholdReport

/-- The summaries of all metrics. -/
def Snapshot.summaries (snapshot : Snapshot Float) : Table MetricSummary :=
  snapshot.aggregates.map fun _ aggregate => aggregate.summary

/-- The codes with which a program ends that ran a plan. -/
inductive ExitCode where
  | success
  | thresholdsFailed
  | engineFault
  | invalidPlan
  | interrupted
  | thresholdAbort
deriving DecidableEq

/-- The number of the code. -/
def ExitCode.number : ExitCode → Nat
  | success => 0
  | thresholdsFailed => 99
  | engineFault => 103
  | invalidPlan => 104
  | interrupted => 105
  | thresholdAbort => 108

namespace RunResult

/-- **Whether all thresholds passed.** -/
def isPassed (result : RunResult) : Bool := result.thresholds.all ThresholdReport.isPassed

/-- The thresholds that did not pass. -/
def failures (result : RunResult) : List ThresholdReport :=
  result.thresholds.filter fun report => !report.isPassed

/-- **The code that the run ends with.** -/
def exitCode (result : RunResult) : ExitCode :=
  match result.status with
  | .abortedByThreshold => .thresholdAbort
  | .interrupted => if result.isPassed then .interrupted else .thresholdsFailed
  | .completed => if result.isPassed then .success else .thresholdsFailed

/-- The duration in milliseconds. -/
def milliseconds (result : RunResult) : Float := result.duration.toScalar * 1000

end RunResult

/-! ### JSON -/

/-- The outcome as members of a report; the first one tells which it is. -/
def Outcome.members : Outcome → List (String × Json)
  | .passed observed => [("outcome", .string "passed"), ("observed", .ofFloat observed)]
  | .failed observed reason =>
    [("outcome", .string "failed"), ("observed", .ofOption .ofFloat observed),
      ("reason", .ofOption .string reason)]
  | .indeterminate reason =>
    [("outcome", .string "indeterminate"), ("reason", .string reason)]

/-- The value under a key that occurs at most once. -/
def Json.member? (members : List (String × Json)) (key : String) : Option (Option Json) :=
  match members.filter fun member => member.1 = key with
  | [] => some none
  | [member] => some (some member.2)
  | _ => none

/-- A number, or nothing for null or absence. -/
def Outcome.number? : Option Json → Option (Option Float)
  | none | some .null => some none
  | some (.number value) => some (some value.toFloat)
  | _ => none

/-- A text, or nothing for null or absence. -/
def Outcome.text? : Option Json → Option (Option String)
  | none | some .null => some none
  | some (.string value) => some (some value)
  | _ => none

/-- The place of an outcome among the three, by its name or its number. -/
def Outcome.place? : Json → Option Nat
  | .string "passed" | .number (.natural 0) => some 0
  | .string "failed" | .number (.natural 1) => some 1
  | .string "indeterminate" | .number (.natural 2) => some 2
  | _ => none

/-- The outcome of a report's members; members that its kind does not have are skipped. -/
def Outcome.ofMembers? (members : List (String × Json)) : Option Outcome := do
  match ← place? (← ← Json.member? members "outcome") with
  | 0 => some (passed (← ← number? (← Json.member? members "observed")))
  | 1 =>
    some (failed (← number? (← Json.member? members "observed"))
      (← text? (← Json.member? members "reason")))
  | _ => some (indeterminate (← ← text? (← Json.member? members "reason")))

namespace ThresholdReport

/-- The report as JSON. -/
def json (report : ThresholdReport) : Json :=
  .object ([("metric", .string report.metric), ("expression", .string report.expression)] ++
    report.outcome.members)

/-- Reads a report. -/
def reader : Reader ThresholdReport :=
  .joined ["metric", "expression"] fun record others => do
    some ⟨← record.need "metric" .string, ← record.need "expression" .string,
      ← Outcome.ofMembers? others⟩

end ThresholdReport

namespace CheckTally

/-- The tally as JSON. -/
def json (tally : CheckTally) : Json :=
  .object [("passes", .ofNat tally.passes), ("fails", .ofNat tally.fails)]

/-- Reads a tally. -/
def reader : Reader CheckTally :=
  .record ["passes", "fails"] .skipped fun record => do
    some ⟨← record.need "passes" (.nat maxWord), ← record.need "fails" (.nat maxWord)⟩

end CheckTally

/-- Reads the name of a status. -/
def RunStatus.reader : Reader RunStatus :=
  .choice ([completed, interrupted, abortedByThreshold].map fun status => (status.name, status))

/-- Reads a number of milliseconds; a negative one counts as none. -/
def Duration.millisReader : Reader Duration :=
  Reader.filterMap .float fun x => (Duration.ofSeconds ((if x < 0 then 0 else x) / 1000)).toOption

namespace RunResult

/-- The fields of a result in their order. -/
def fields : List String :=
  ["name", "status", "duration", "iterations", "vus_max", "metrics", "checks", "thresholds"]

/-- The result as JSON. -/
def json (result : RunResult) : Json :=
  .object [("name", .string result.name), ("status", .string result.status.name),
    ("duration", .ofFloat result.milliseconds), ("iterations", .ofNat result.iterations),
    ("vus_max", .ofNat result.peakUsers), ("metrics", .ofTable MetricSummary.json result.metrics),
    ("checks", .ofTable CheckTally.json result.checks),
    ("thresholds", .ofList ThresholdReport.json result.thresholds)]

/-- **Reads a result.** -/
def reader : Reader RunResult :=
  .record fields .skipped fun record => do
    some {
      name := ← record.need "name" .string
      status := ← record.need "status" RunStatus.reader
      duration := ← record.need "duration" Duration.millisReader
      iterations := ← record.need "iterations" (.nat maxWord)
      peakUsers := ← record.need "vus_max" (.nat maxWord)
      metrics := ← record.need "metrics" (.table MetricSummary.reader)
      checks := ← record.need "checks" (.table CheckTally.reader)
      thresholds := ← record.need "thresholds" (.list ThresholdReport.reader) }

/-- The figures of a metric and the verdicts of its thresholds, by their expressions. -/
def metricJson (result : RunResult) (name : String) (summary : MetricSummary) : Json :=
  let verdicts := (result.thresholds.filter fun report => report.metric = name).map fun report =>
    (report.expression, Json.object [("ok", .bool report.isPassed)])
  match summary.json with
  | .object members =>
    .object (members ++ if verdicts.isEmpty then [] else [("thresholds", .ofMembers verdicts)])
  | other => other

/-- What is exported of a result, before it is sorted. -/
def exported (result : RunResult) : Json :=
  .object [
    ("state", .object [("name", .string result.name), ("status", .string result.status.name),
      ("testRunDurationMs", .ofFloat result.milliseconds),
      ("iterations", .ofNat result.iterations), ("vusMax", .ofNat result.peakUsers),
      ("passed", .bool result.isPassed)]),
    ("metrics", .object (result.metrics.toList.map fun (name, summary) =>
      (name, result.metricJson name summary))),
    ("checks", .ofTable CheckTally.json result.checks),
    ("thresholds", .ofList ThresholdReport.json result.thresholds)]

/-- **What is exported of a result**, with all members sorted by key. -/
def summaryJson (result : RunResult) : Json := result.exported.sorted

end RunResult

end LoadTest
