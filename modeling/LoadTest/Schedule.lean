/-
**The schedule of a run.**

The number of virtual users follows a curve: each stage moves it in a straight line from where the
stage before it ended to its own target. A stage without duration is a jump. The end of the last
stage still belongs to it; after that there are no users.

* `Schedule.targetAt`: the curve, over any arithmetic;
* `Schedule.usersAt`: the nearest whole number of users;
* `Schedule.stageAt`, `Schedule.isFinished`: where in the schedule a time lies.
-/

import LoadTest.Scalar

namespace LoadTest

/-- Moves the number of users in a straight line to a target. -/
structure Stage where
  duration : Duration
  target : Nat
deriving DecidableEq, Inhabited

/-- The users at the start, and the stages in their order. -/
structure Schedule where
  startUsers : Nat
  stages : List Stage
deriving DecidableEq, Inhabited

namespace Schedule

/-- The sum of all stages. -/
def total (schedule : Schedule) : Duration := Duration.sum (schedule.stages.map Stage.duration)

/-- The most users that the schedule asks for. -/
def peak (schedule : Schedule) : Nat :=
  (schedule.stages.map Stage.target).foldl max schedule.startUsers

section Curve

variable {α : Type} [Scalar α]

/-- The curve over the stages that begin at `start`, where it stands at `previous`; `any` tells
whether there was a stage before them. -/
def targetFrom (start : Duration) (previous : α) (any : Bool) (elapsed : Duration) :
    List Stage → α
  | [] => if any && elapsed = start then previous else Scalar.ofNat 0
  | stage :: rest =>
    let finish := start + stage.duration
    let target : α := Scalar.ofNat stage.target
    if elapsed < finish then
      let gone := Duration.ofNanos (elapsed.nanos - start.nanos)
      previous + (target - previous) * (gone.toScalar / stage.duration.toScalar)
    else targetFrom finish target true elapsed rest

/-- **The target at a time.** -/
def targetAt (schedule : Schedule) (elapsed : Duration) : α :=
  targetFrom .zero (Scalar.ofNat schedule.startUsers) false elapsed schedule.stages

end Curve

/-- The nearest whole number of users in an arithmetic. -/
def usersIn (α : Type) [Scalar α] (schedule : Schedule) (elapsed : Duration) : Nat :=
  Scalar.round (schedule.targetAt elapsed : α)

/-- The number of users at a time. -/
def usersAt (schedule : Schedule) (elapsed : Duration) : Nat := schedule.usersIn Float elapsed

/-- The place of the stage that a time lies in, of stages that begin at `start`. -/
def stageFrom (start : Duration) (elapsed : Duration) : List Stage → Option Nat
  | [] => none
  | stage :: rest =>
    let finish := start + stage.duration
    if elapsed < finish then some 0 else (stageFrom finish elapsed rest).map (· + 1)

/-- **The place of the stage that a time lies in**, if the schedule is not over. -/
def stageAt (schedule : Schedule) (elapsed : Duration) : Option Nat :=
  stageFrom .zero elapsed schedule.stages

/-- Whether the schedule is over. -/
def isFinished (schedule : Schedule) (elapsed : Duration) : Bool := schedule.total ≤ elapsed

end Schedule

end LoadTest
