/-
**Statistics.**

What a threshold looks at: a rate, a percentile, an average, an extreme, a count or a sum. Which of
them a metric has depends on its kind.

* `Statistic.parse` and `Statistic.show`: reading and writing;
* `Statistic.appliesTo`: whether a kind of metric has the statistic.
-/

import LoadTest.Metric.Kind
import LoadTest.Decimal.Layout
import LoadTest.Decimal.Literal
import LoadTest.Text.Blank
import LoadTest.Text.Cut
import LoadTest.Text.Quoted

namespace LoadTest

open Decimal Text

/-- What is asked of a metric. -/
inductive Statistic where
  | rate
  | percentile (rank : Float)
  | avg
  | min
  | max
  | med
  | count
  | sum
deriving DecidableEq

/-- Why a text names no statistic. -/
inductive StatisticFault where
  | unknown (text : String)
  | invalidPercentile (text : String)
  | outside (rank : Float)
deriving DecidableEq

/-- The wording of the fault. -/
def StatisticFault.message : StatisticFault → String
  | .unknown text => "unknown statistic " ++ quote text
  | .invalidPercentile text => "invalid percentile " ++ quote text
  | .outside rank => "percentile " ++ showFloat rank ++ " is outside 0..=100"

namespace Statistic

/-- The statistics with a name of their own. -/
def named : List (String × Statistic) :=
  [("rate", rate), ("avg", avg), ("min", min), ("max", max), ("med", med), ("count", count),
    ("sum", sum)]

/-- The text of the rank in `p(95)` or `p95`. -/
def rankText? (text : List Char) : Option (List Char) :=
  ((dropLead? ['p', '('] text).bind (dropTail? [')'])).or (dropLead? ['p'] text)

/-- **The statistic that a text names.** -/
def parse (text : List Char) : Except StatisticFault Statistic :=
  match named.lookup (String.ofList text) with
  | some statistic => .ok statistic
  | none =>
    match rankText? text with
    | none => .error (.unknown (String.ofList text))
    | some rank =>
      match readFloat? (trim rank) with
      | none => .error (.invalidPercentile (String.ofList rank))
      | some value =>
        if 0 ≤ value ∧ value ≤ 100 then .ok (percentile value) else .error (.outside value)

/-- The statistic as it is written. -/
def «show» : Statistic → String
  | rate => "rate"
  | percentile rank => "p(" ++ showFloat rank ++ ")"
  | avg => "avg"
  | min => "min"
  | max => "max"
  | med => "med"
  | count => "count"
  | sum => "sum"

/-- Whether a kind of metric has the statistic. -/
def appliesTo : Statistic → MetricKind → Bool
  | rate, .rate | count, .rate => true
  | _, .rate => false
  | rate, .counter | count, .counter | sum, .counter => true
  | _, .counter => false
  | rate, .trend => false
  | _, .trend => true

end Statistic

end LoadTest
