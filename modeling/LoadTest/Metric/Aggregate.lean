/-
**Aggregates.**

What a metric comes to at some time: a counter's events and total, how often a rate held and how
often not, or the values of a trend in ascending order. Every statistic is a function of these, so
it does not depend on the order in which samples came.

* `Aggregate.ofValues`, `Aggregate.ofLiterals`: an aggregate of given values;
* `Aggregate.statistic`: a statistic of the metric, or why it has none.
-/

import LoadTest.Metric.Percentile
import LoadTest.Threshold.Statistic

namespace LoadTest

/-- What the samples of a metric come to. -/
inductive Aggregate (α : Type) where
  /-- events, their total, and how long the metric was watched -/
  | counter (events : Nat) (total : α) (elapsed : Duration)
  /-- how often it held and how often not; `values` holds numbers that it was made of instead -/
  | rate (trues falses : Nat) (values : List α)
  /-- the values in ascending order -/
  | trend (values : List α)
deriving DecidableEq

/-- Why a metric has no value for a statistic. -/
inductive StatisticGap where
  | noSamples
  | notApplicable (kind : MetricKind)
deriving DecidableEq

/-- The wording of the gap. -/
def StatisticGap.message : StatisticGap → String
  | .noSamples => "metric has no samples"
  | .notApplicable kind => "statistic is not defined for " ++ kind.name ++ " metrics"

namespace Aggregate

variable {α : Type}

/-- The kind of metric. -/
def kind : Aggregate α → MetricKind
  | counter .. => .counter
  | rate .. => .rate
  | trend .. => .trend

/-- The values in ascending order. -/
def values : Aggregate α → List α
  | counter .. => []
  | rate _ _ values => values
  | trend values => values

/-- How often a rate held. -/
def trues : Aggregate α → Nat
  | rate trues _ _ => trues
  | _ => 0

/-- How often a rate did not hold. -/
def falses : Aggregate α → Nat
  | rate _ falses _ => falses
  | _ => 0

/-- How many samples there were. -/
def samples : Aggregate α → Nat
  | counter events .. => events
  | rate trues falses _ => trues + falses
  | trend values => values.length

variable [Scalar α]

/-- The aggregate of given values; those of a counter are added up in their order. -/
def ofValues (kind : MetricKind) (values : List α) (elapsed : Duration) : Aggregate α :=
  match kind with
  | .counter => counter values.length (Scalar.sum values) elapsed
  | .rate => rate 0 0 (Scalar.sort values)
  | .trend => trend (Scalar.sort values)

/-- The place of a literal in the total order of the floats that literals stand for. What is no
number keeps its sign there, so with a minus sign it comes before all others. -/
def literalKey (literal : Decimal.Literal) : Int :=
  if literal.negative && literal.magnitude = .notANumber then -0x7FF8000000000001
  else sortKey literal.value

/-- The aggregate of values as they are written. -/
def ofLiterals (kind : MetricKind) (literals : List Decimal.Literal) (elapsed : Duration) :
    Aggregate Float :=
  let ordered := literals.mergeSort fun first second => literalKey first ≤ literalKey second
  match kind with
  | .counter => ofValues .counter (literals.map Decimal.Literal.value) elapsed
  | .rate => rate 0 0 (ordered.map Decimal.Literal.value)
  | .trend => trend (ordered.map Decimal.Literal.value)

/-- The total of a counter or a trend; for a rate how often it held. -/
def sum : Aggregate α → α
  | counter _ total _ => total
  | rate trues _ _ => Scalar.ofNat trues
  | trend values => Scalar.sum values

/-- The least value. -/
def min (aggregate : Aggregate α) : Option α := aggregate.values.head?

/-- The greatest value. -/
def max (aggregate : Aggregate α) : Option α := aggregate.values.getLast?

/-- The total divided by the number of values. -/
def avg (aggregate : Aggregate α) : Option α :=
  if aggregate.values.isEmpty then none
  else some (aggregate.sum / Scalar.ofNat aggregate.values.length)

/-- A percentile of the values. -/
def percentile (aggregate : Aggregate α) (rank : α) : Option α :=
  LoadTest.percentile aggregate.values rank

/-- The part of a rate that held, or a counter's total for every second. -/
def perUnit : Aggregate α → Option α
  | counter _ total elapsed =>
    let seconds : α := elapsed.toScalar
    if Scalar.lt (Scalar.ofNat 0) seconds then some (total / seconds) else none
  | rate trues falses _ =>
    if trues + falses = 0 then none
    else some (Scalar.ofNat trues / Scalar.ofNat (trues + falses))
  | trend _ => none

/-- **A statistic of the metric.** A counter without samples has none, and its rate needs some time
to have passed. -/
def statistic (aggregate : Aggregate Float) (statistic : Statistic) : Except StatisticGap Float :=
  if !statistic.appliesTo aggregate.kind then .error (.notApplicable aggregate.kind)
  else if aggregate.samples = 0 then .error .noSamples
  else
    let value := match statistic with
      | .count => match aggregate with
        | counter .. => some aggregate.sum
        | _ => some (Float.ofNat aggregate.samples)
      | .sum => some aggregate.sum
      | .rate => aggregate.perUnit
      | .avg => aggregate.avg
      | .min => aggregate.min
      | .max => aggregate.max
      | .med => aggregate.percentile 50
      | .percentile rank => aggregate.percentile rank
    match value with
    | some value => .ok value
    | none => .error .noSamples

end Aggregate

end LoadTest
