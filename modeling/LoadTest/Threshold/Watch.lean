/-
**Watching thresholds during a run.**

From time to time the thresholds that may stop the run are looked at in the order of the plan. One
whose delay has not passed is skipped, and so is one that is undecided; the first that fails stops
the run. Only the metrics that these thresholds name are looked at.

* `Threshold.isArmed`: whether a threshold may stop the run by now;
* `Recorder.breach?`: the threshold that stops the run.
-/

import LoadTest.Threshold.Verdict
import LoadTest.Decimal.Fixed

namespace LoadTest

open Decimal

/-- Whether the threshold may stop the run after some time. -/
def Threshold.isArmed (threshold : Threshold) (elapsed : Duration) : Bool :=
  match threshold.abort with
  | none => false
  | some rule => rule.delay.all fun delay => delay ≤ elapsed

/-- A threshold that stops the run, with its verdict. -/
structure Breach where
  threshold : Threshold
  outcome : Outcome
deriving DecidableEq

namespace Breach

/-- The verdict as it is reported. -/
def report (breach : Breach) : ThresholdReport := breach.threshold.report breach.outcome

/-- What is said when the run is stopped. -/
def message (breach : Breach) : String :=
  let observed := (breach.outcome.observed.map (fixed 4)).getD "n/a"
  "Threshold " ++ breach.threshold.show ++ " breached (observed " ++ observed ++ "), aborting run"

end Breach

/-- **The first threshold that stops the run at some time.** -/
def Recorder.breach? (recorder : Recorder Float) (thresholds : List Threshold) (now : Duration) :
    Option Breach :=
  thresholds.findSome? fun threshold =>
    let outcome := threshold.outcome (recorder.aggregate threshold.metric now)
    if threshold.isArmed (recorder.elapsed now) && outcome.isFailed then some ⟨threshold, outcome⟩
    else none

end LoadTest
