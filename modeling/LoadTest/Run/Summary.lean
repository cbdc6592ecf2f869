/-
**The summary of a run in text.**

A line about the run, a line for every check, for every metric that has samples and for every
threshold, and if the run did not pass, what most likely made it fail.

* `RunResult.text`: the summary;
* `RunResult.failureLines`: the lines about what failed.
-/

import LoadTest.Run.Result
import LoadTest.Decimal.Fixed
import LoadTest.Text.Cut

namespace LoadTest

open Decimal Text

/-- A number of milliseconds in seconds, milliseconds or microseconds, with two places. -/
def showMillis (x : Float) : String :=
  if 1000 ≤ x then fixed 2 (x / 1000) ++ "s"
  else if 1 ≤ x then fixed 2 x ++ "ms"
  else fixed 2 (x * 1000) ++ "µs"

/-- The sign in front of what passed or failed. -/
def markOf (passed : Bool) : String := if passed then "✓" else "✗"

/-- The greatest entry in the order of a key; of equal ones the last. -/
def lastMax {β κ : Type} (key : β → κ) (le : κ → κ → Bool) : List β → Option β
  | [] => none
  | entry :: rest =>
    some (rest.foldl (fun best next => if le (key best) (key next) then next else best) entry)

/-- How many columns the name of a metric is filled up to. -/
def labelWidth : Nat := 28

namespace CheckTally

/-- The passes in percent. -/
def percent (tally : CheckTally) : Float :=
  if tally.total = 0 then 0 else Float.ofNat tally.passes / Float.ofNat tally.total * 100

/-- The line about a check. -/
def line (name : String) (tally : CheckTally) : String :=
  "  " ++ markOf (tally.fails = 0) ++ " " ++ name ++ "  " ++ fixed 2 tally.percent ++ "% (" ++
    showNat tally.passes ++ " / " ++ showNat tally.total ++ ")\n"

end CheckTally

namespace MetricSummary

/-- A statistic of a trend; that of a duration has a unit. -/
def showStatistic (name : String) : Option Float → String
  | none => "-"
  | some x => if hasPart "duration".toList name.toList then showMillis x else fixed 2 x

/-- The statistics of a metric. -/
def describe (name : String) (summary : MetricSummary) : String :=
  match summary.kind with
  | .rate =>
    fixed 2 (summary.rate.getD 0 * 100) ++ "%  ✓ " ++ showNat summary.trues ++ "  ✗ " ++
      showNat summary.falses
  | .counter =>
    showFloat summary.count ++ ((summary.rate.map fun rate => "  " ++ fixed 2 rate ++ "/s").getD "")
  | .trend =>
    String.intercalate " " <|
      [("avg", summary.avg), ("min", summary.min), ("med", summary.med), ("max", summary.max),
        ("p(90)", summary.p90), ("p(95)", summary.p95)].map fun (word, value) =>
          word ++ "=" ++ showStatistic name value

/-- The line about a metric, unless it has no samples. -/
def line (name : String) (summary : MetricSummary) : String :=
  if summary.count == 0 then ""
  else
    "  " ++ name ++ String.ofList (List.replicate (labelWidth - name.utf8ByteSize) '.') ++ ": " ++
      summary.describe name ++ "\n"

end MetricSummary

/-- What is said about the outcome behind a threshold. -/
def Outcome.remark : Outcome → String
  | passed observed | failed (some observed) _ => " (observed " ++ fixed 4 observed ++ ")"
  | failed none (some reason) => " (" ++ reason ++ ")"
  | failed none none => ""
  | indeterminate reason => " (indeterminate: " ++ reason ++ ")"

/-- The line about a threshold. -/
def ThresholdReport.line (report : ThresholdReport) : String :=
  "  " ++ markOf report.isPassed ++ " " ++ report.show ++ report.outcome.remark ++ "\n"

namespace RunResult

/-- How the status is called. -/
def statusWords (result : RunResult) : String :=
  match result.status with
  | .completed => "completed"
  | .interrupted => "interrupted"
  | .abortedByThreshold => "aborted by threshold"

/-- The line about the run. -/
def heading (result : RunResult) : String :=
  "\n  run: " ++ result.name ++ "  status: " ++ result.statusWords ++ "  duration: " ++
    showMillis result.milliseconds ++ "  iterations: " ++ showNat result.iterations ++
    "  vus_max: " ++ showNat result.peakUsers ++ "\n\n"

/-- The lines of all checks. -/
def checkLines (result : RunResult) : String :=
  if result.checks.isEmpty then ""
  else
    String.join (result.checks.toList.map fun (name, tally) => tally.line name) ++ "\n"

/-- The lines of all thresholds. -/
def thresholdLines (result : RunResult) : String :=
  if result.thresholds.isEmpty then ""
  else "\n  thresholds:\n" ++ String.join (result.thresholds.map ThresholdReport.line)

/-- The order in which the greatest float is looked for. -/
def floatLE (x y : Float) : Bool := Scalar.sortLE x y

/-- The rate of failures that held most often. -/
def highestFailureRate (result : RunResult) : Option (String × Float) :=
  lastMax (·.2) floatLE <| result.metrics.toList.filterMap fun (name, summary) =>
    if summary.kind = .rate && hasPart "failed".toList name.toList then
      (summary.rate.filter fun rate => 0 < rate).map fun rate => (name, rate)
    else none

/-- The requests with the greatest 95th percentile. -/
def slowest (result : RunResult) : Option (String × Float) :=
  lastMax (·.2) floatLE <| result.metrics.toList.filterMap fun (name, summary) =>
    if summary.kind = .trend && BuiltIn.requestDuration.toList.isPrefixOf name.toList then
      summary.p95.map fun p95 => (name, p95)
    else none

/-- The check that failed most often. -/
def mostFailedCheck (result : RunResult) : Option (String × CheckTally) :=
  lastMax (·.2.fails) Nat.ble (result.checks.toList.filter fun (_, tally) => 0 < tally.fails)

/-- **The lines about what most likely made a run fail.** -/
def failureLines (result : RunResult) : String :=
  if result.isPassed then ""
  else
    let about (words : String) (subject : Option String) : String :=
      (subject.map fun subject => "    " ++ words ++ ": " ++ subject ++ "\n").getD ""
    "\n  dominant failures:\n" ++
      about "highest failure rate" (result.highestFailureRate.map fun (name, rate) =>
        name ++ " " ++ fixed 2 (rate * 100) ++ "%") ++
      about "slowest p(95)" (result.slowest.map fun (name, p95) => name ++ " " ++ showMillis p95) ++
      about "most failed check" (result.mostFailedCheck.map fun (name, tally) =>
        name ++ " (" ++ showNat tally.fails ++ " failures)") ++
      String.join (result.failures.map fun report => about "failed threshold" (some report.show))

/-- **The summary of a run.** -/
def text (result : RunResult) : String :=
  result.heading ++ result.checkLines ++
    String.join (result.metrics.toList.map fun (name, summary) => summary.line name) ++
    result.thresholdLines ++ result.failureLines

end RunResult

end LoadTest
