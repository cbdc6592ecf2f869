/-
**Samples.**

A sample is one measured value of a metric: a number, or whether something held. A rate asks
whether it holds, which a number other than zero does; the other kinds ask for the number.

* `Sample.withTags`: the sample with tags of the plan, its own ones winning.
-/

import LoadTest.Metric.Kind
import LoadTest.Metric.Selector
import LoadTest.Scalar

namespace LoadTest

/-- A measured value. -/
inductive Measured (α : Type) where
  | number (value : α)
  | flag (value : Bool)
deriving DecidableEq

namespace Measured

variable {α : Type} [Scalar α]

/-- The value as a number: one for what holds, zero for what does not. -/
def toNumber : Measured α → α
  | .number value => value
  | .flag true => Scalar.ofNat 1
  | .flag false => Scalar.ofNat 0

/-- Whether the value holds: any number other than zero does. -/
def holds : Measured α → Bool
  | .number value => !Scalar.eq value (Scalar.ofNat 0)
  | .flag value => value

/-- Whether the value is a number that cannot be recorded. -/
def isUnrecordable : Measured α → Bool
  | .number value => !Scalar.isFinite value
  | .flag _ => false

end Measured

/-- One measured value of a metric, taken at some time since the run began. -/
structure Sample (α : Type) where
  metric : String
  kind : MetricKind
  value : Measured α
  offset : Duration
  tags : Tags
deriving DecidableEq

namespace Sample

variable {α : Type}

/-- A sample without tags, taken when the run began. -/
def of (metric : String) (kind : MetricKind) (value : Measured α) : Sample α :=
  ⟨metric, kind, value, .zero, .empty⟩

/-- A sample of a trend. -/
def trend (metric : String) (value : α) : Sample α := of metric .trend (.number value)

/-- A sample of a counter. -/
def counter (metric : String) (value : α) : Sample α := of metric .counter (.number value)

/-- A sample of a rate. -/
def rate (metric : String) (value : Bool) : Sample α := of metric .rate (.flag value)

/-- The sample with a tag, replacing an older one of that key. -/
def tag (sample : Sample α) (key value : String) : Sample α :=
  { sample with tags := sample.tags.insert key value }

/-- **The sample with more tags, its own ones winning.** -/
def withTags (sample : Sample α) (tags : Tags) : Sample α :=
  { sample with
    tags := tags.entries.foldl (fun own tag => own.insertNew tag.1 tag.2) sample.tags }

end Sample

end LoadTest
