/-
**Durations as people write them.**

A duration in a text is a number of seconds (`1.5`) or a sequence of numbers with units
(`1m 30s`). The number is tried first; blanks around the text do not count.

* `Duration.parse`: the duration, or the text with what is wrong with it.
-/

import LoadTest.Duration.Units
import LoadTest.Decimal.Literal
import LoadTest.Text.Quoted

namespace LoadTest

open Decimal Text

/-- What is wrong with the text of a duration. -/
inductive DurationFault where
  /-- a literal of a number that no duration has -/
  | literal
  /-- a number that no duration has -/
  | number (fault : SecondsFault)
  | units (fault : UnitsFault)
deriving DecidableEq

/-- The wording of the fault. -/
def DurationFault.message : DurationFault → String
  | .literal => "must be a non-negative number of seconds"
  | .number fault => "must be a non-negative number of seconds (" ++ fault.message ++ ")"
  | .units fault => fault.message

/-- A text, or the text of a number, that is no duration, with what is wrong with it. -/
structure InvalidDuration where
  input : String
  fault : DurationFault
deriving DecidableEq

/-- The wording of the fault. -/
def InvalidDuration.message (invalid : InvalidDuration) : String :=
  "Invalid duration " ++ quote invalid.input ++ ": " ++ invalid.fault.message

/-- **The duration that a text stands for.** -/
def Duration.parse (input : String) : Except InvalidDuration Duration :=
  let text := trim input.toList
  match readFloat? text with
  | some seconds =>
    match Duration.ofSeconds seconds with
    | .ok d => .ok d
    | .error _ => .error ⟨input, .literal⟩
  | none =>
    match Units.read text with
    | .ok d => .ok d
    | .error fault => .error ⟨input, .units fault⟩

/-- The duration of a number of seconds, the number being named where it is at fault. -/
def Duration.ofNumber (seconds : Float) : Except InvalidDuration Duration :=
  match Duration.ofSeconds seconds with
  | .ok d => .ok d
  | .error fault => .error ⟨showFloat seconds, .number fault⟩

end LoadTest
