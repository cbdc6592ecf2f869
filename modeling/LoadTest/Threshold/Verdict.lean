/-
**Verdicts.**

A threshold passes if its statistic was observed and meets the bound. It fails if the statistic
does not, or if the kind of metric has no such statistic; without samples it is undecided, which
does not pass either.

* `Threshold.outcome`: the verdict on what a metric comes to;
* `Snapshot.reports`: the verdicts of all thresholds.
-/

import LoadTest.Threshold.Basic
import LoadTest.Recorder.Basic

namespace LoadTest

/-- What became of a threshold. -/
inductive Outcome where
  | passed (observed : Float)
  | failed (observed : Option Float) (reason : Option String)
  | indeterminate (reason : String)
deriving DecidableEq

namespace Outcome

/-- Whether the threshold passed. -/
def isPassed : Outcome → Bool
  | passed _ => true
  | _ => false

/-- Whether the threshold failed for certain. -/
def isFailed : Outcome → Bool
  | failed .. => true
  | _ => false

/-- The value that was observed. -/
def observed : Outcome → Option Float
  | passed observed => some observed
  | failed observed _ => observed
  | indeterminate _ => none

/-- Why nothing was observed. -/
def reason : Outcome → Option String
  | passed _ => none
  | failed _ reason => reason
  | indeterminate reason => some reason

end Outcome

/-- A threshold with its verdict. -/
structure ThresholdReport where
  metric : String
  expression : String
  outcome : Outcome
deriving DecidableEq

namespace ThresholdReport

/-- Whether the threshold passed. -/
def isPassed (report : ThresholdReport) : Bool := report.outcome.isPassed

/-- The metric and the expression. -/
def «show» (report : ThresholdReport) : String := report.metric ++ ": " ++ report.expression

end ThresholdReport

namespace Threshold

/-- The outcome when there is nothing to observe. -/
def unobserved (threshold : Threshold) : Outcome :=
  .indeterminate ("no samples recorded for " ++ threshold.metric.show)

/-- **The verdict on what the metric comes to.** -/
def outcome (threshold : Threshold) : Option (Aggregate Float) → Outcome
  | none => threshold.unobserved
  | some aggregate =>
    match aggregate.statistic threshold.expression.statistic with
    | .error .noSamples => threshold.unobserved
    | .error (.notApplicable kind) => .failed none (some (StatisticGap.notApplicable kind).message)
    | .ok observed =>
      if threshold.expression.holds observed then .passed observed else .failed (some observed) none

/-- The threshold with a verdict. -/
def report (threshold : Threshold) (outcome : Outcome) : ThresholdReport :=
  ⟨threshold.metric.show, threshold.source, outcome⟩

end Threshold

/-- **The verdicts of all thresholds.** -/
def Snapshot.reports (snapshot : Snapshot Float) (thresholds : List Threshold) :
    List ThresholdReport :=
  thresholds.map fun threshold => threshold.report (threshold.outcome (snapshot.get? threshold.metric))

end LoadTest
