/-
**What is kept of a metric.**

A counter keeps the number of its samples and their running total, a rate how often it held and how
often not, and a trend every value. Values are never summed up before they are asked for, so
percentiles are exact.

* `Sink.push`: one more sample;
* `Sink.aggregate`: what the samples come to;
* `CheckTally`: how often a check passed and failed.
-/

import LoadTest.Metric.Aggregate
import LoadTest.Metric.Sample

namespace LoadTest

/-- What is kept of the samples of a metric. -/
inductive Sink (α : Type) where
  | counter (events : Nat) (total : α)
  | rate (trues falses : Nat)
  /-- the values, the latest first -/
  | trend (values : List α)
deriving DecidableEq

namespace Sink

variable {α : Type}

/-- The kind of metric. -/
def kind : Sink α → MetricKind
  | counter .. => .counter
  | rate .. => .rate
  | trend .. => .trend

variable [Scalar α]

/-- A metric of some kind without samples. -/
def empty : MetricKind → Sink α
  | .counter => counter 0 (Scalar.ofNat 0)
  | .rate => rate 0 0
  | .trend => trend []

/-- **The samples and one more.** -/
def push (sink : Sink α) (value : Measured α) : Sink α :=
  match sink with
  | counter events total => counter (events + 1) (total + value.toNumber)
  | rate trues falses => if value.holds then rate (trues + 1) falses else rate trues (falses + 1)
  | trend values => trend (value.toNumber :: values)

/-- The running total of a counter; zero for other kinds. -/
def total : Sink α → α
  | counter _ total => total
  | _ => Scalar.ofNat 0

/-- **What the samples come to**, when the metric was watched for some time. -/
def aggregate (sink : Sink α) (elapsed : Duration) : Aggregate α :=
  match sink with
  | counter events total => .counter events total elapsed
  | rate trues falses => .rate trues falses []
  | trend values => .ofValues .trend values elapsed

@[simp] theorem kind_empty (kind : MetricKind) : (empty kind : Sink α).kind = kind := by
  cases kind <;> rfl

@[simp] theorem kind_push (sink : Sink α) (value : Measured α) :
    (sink.push value).kind = sink.kind := by
  unfold push
  split
  · rfl
  · split <;> rfl
  · rfl

@[simp] theorem kind_aggregate (sink : Sink α) (elapsed : Duration) :
    (sink.aggregate elapsed).kind = sink.kind := by
  cases sink <;> rfl

end Sink

/-- How often a check passed and failed. -/
structure CheckTally where
  passes : Nat
  fails : Nat
deriving DecidableEq, Inhabited

namespace CheckTally

/-- A check without outcomes. -/
def zero : CheckTally := ⟨0, 0⟩

/-- The tally with one more outcome. -/
def add (tally : CheckTally) (passed : Bool) : CheckTally :=
  if passed then { tally with passes := tally.passes + 1 }
  else { tally with fails := tally.fails + 1 }

/-- The number of outcomes. -/
def total (tally : CheckTally) : Nat := tally.passes + tally.fails

end CheckTally

end LoadTest
