/-
**What a monitoring system is told.**

Recorded samples are passed on as they come: values of a trend as they are, outcomes of a rate as
steps of two counters, and samples of a counter as whole steps. A step of a counter that is
negative, has a fraction or does not fit 64 bits is not passed on.

* `Sample.feed`: what a sample tells;
* `Recorder.feed`: the same, if the sample is recorded.
-/

import LoadTest.Recorder.Basic

namespace LoadTest

open Decimal

/-- One message to a monitoring system. -/
inductive Feed where
  | increment (name : String) (step : Nat)
  | value (name : String) (value : Float)
deriving DecidableEq

/-- The whole step that a value of a counter stands for. -/
def wholeStep? (value : Float) : Option Nat :=
  if 0 ≤ value ∧ value < 18446744073709551616 ∧ Float.ofNat (floorNat value) == value then
    some (floorNat value)
  else none

/-- What a sample tells. -/
def Sample.feed (sample : Sample Float) : Option Feed :=
  match sample.kind with
  | .trend => some (.value sample.metric sample.value.toNumber)
  | .counter => (wholeStep? sample.value.toNumber).map (Feed.increment sample.metric)
  | .rate =>
    some (.increment (sample.metric ++ if sample.value.holds then "_true" else "_false") 1)

/-- What a sample tells, if it is recorded. -/
def Recorder.feed (recorder : Recorder Float) (sample : Sample Float) : Option Feed :=
  if recorder.accepts sample then sample.feed else none

end LoadTest
