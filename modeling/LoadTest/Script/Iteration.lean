/-
**An iteration of a script.**

The steps are taken in their order, and no variable is known at the start. A step with an unknown
variable is left out; the first request that fails ends the iteration. After a response its checks
are recorded, then its captures are made: one that finds a value replaces the variable, one that
finds none leaves it as it is.

* `Script.iteration`: what a user does in an iteration.
-/

import LoadTest.Run.Activity
import LoadTest.Script.Basic

namespace LoadTest

/-- The variables after the captures of a step. The numbers that are drawn come from `draws`. -/
def Variables.capture (draws : Nat → Nat) (response : Response) :
    List CaptureSpec → Variables → Variables
  | [], known => known
  | spec :: rest, known =>
    let later (place : Nat) := draws (place + 1)
    match spec.value? (draws 0) response with
    | some value => Variables.capture later response rest (known.insert spec.var value)
    | none => Variables.capture later response rest known

/-- Records the checks of a step in their order. -/
def ResponseCheck.record (response : Response) (checks : List ResponseCheck) (next : Activity) :
    Activity :=
  checks.foldr (fun check next => .check check.name (check.holds response) next) next

/-- The steps from some point on, with the variables that are known there. -/
def ScriptStep.iterate (client : Client) (draws : Nat → Nat) :
    List ScriptStep → Variables → Activity
  | [], _ => .finish none
  | step :: rest, known =>
    let later (place : Nat) := draws (place + step.captures.length)
    match step.prepare known with
    | none => iterate client later rest known
    | some request =>
      .ask client request fun
        | .error fault => .finish (some fault)
        | .ok response =>
          ResponseCheck.record response step.checks <|
            iterate client later rest (Variables.capture draws response step.captures known)

/-- **What a user does in an iteration.** -/
def Script.iteration (script : Script) (client : Client) (draws : Nat → Nat) : Activity :=
  ScriptStep.iterate client draws script.steps .empty

end LoadTest
