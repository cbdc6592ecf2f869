/-
**Thresholds.**

A threshold is a condition on one metric that decides whether a run passed. It may also stop a run
as soon as it fails, from some time on.

* `Threshold.parse`: a threshold of a metric and an expression, the metric being read first;
* `Threshold.parts_of_parse`: what it takes from each of the two texts;
* `Threshold.show`: the metric and the expression as it was written.
-/

import LoadTest.Threshold.Expression
import LoadTest.Metric.Selector
import LoadTest.Duration.Basic

namespace LoadTest

open Text

/-- A failing threshold stops the run, but not before the delay has passed. -/
structure AbortRule where
  delay : Option Duration
deriving DecidableEq

/-- A condition on one metric. -/
structure Threshold where
  metric : Selector
  expression : Expression
  /-- The expression as it was written, without the blanks around it. -/
  source : String
  abort : Option AbortRule
deriving DecidableEq

/-- Why a metric and an expression make no threshold. -/
inductive ThresholdFault where
  | selector (text : String)
  | expression (metric text : String) (fault : ExpressionFault)
deriving DecidableEq

namespace Threshold

/-- **The threshold that a metric and an expression stand for.** -/
def parse (metric expression : String) : Except ThresholdFault Threshold :=
  match Selector.parse? metric with
  | none => .error (.selector metric)
  | some selector =>
    match Expression.parse expression with
    | .error fault => .error (.expression metric expression fault)
    | .ok parsed =>
      .ok ⟨selector, parsed, String.ofList (trim expression.toList), none⟩

/-- **What a threshold takes from its texts.** -/
theorem parts_of_parse {metric text : String} {threshold : Threshold}
    (read : parse metric text = .ok threshold) :
    Selector.parse? metric = some threshold.metric ∧
      Expression.parse text = .ok threshold.expression ∧
      threshold.source = String.ofList (trim text.toList) := by
  unfold parse at read
  cases selected : Selector.parse? metric with
  | none =>
    rw [selected] at read
    contradiction
  | some selector =>
    rw [selected] at read
    dsimp only at read
    cases expressed : Expression.parse text with
    | error fault =>
      rw [expressed] at read
      contradiction
    | ok expression =>
      rw [expressed] at read
      obtain rfl := Except.ok.inj read
      exact ⟨rfl, rfl, rfl⟩

/-- The threshold stops the run when it fails. -/
def abortOnFail (threshold : Threshold) (delay : Option Duration) : Threshold :=
  { threshold with abort := some ⟨delay⟩ }

/-- The metric and the expression as it was written. -/
def «show» (threshold : Threshold) : String := threshold.metric.show ++ ": " ++ threshold.source

end Threshold

end LoadTest
