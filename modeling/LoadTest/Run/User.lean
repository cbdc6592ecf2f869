/-
**The life of a virtual user.**

A user runs one iteration after the other and pauses in between. It looks whether it is retired
only between iterations, so an iteration that has begun runs to its end, unless iterations are
being dropped: then it is over at once, and nothing is recorded of it. An iteration that ends is
recorded by three samples.

* `Life`: where a user stands;
* `User.arrive`: what a user does between two iterations;
* `User.advance`: what a user does after a signal.
-/

import LoadTest.Run.Activity

namespace LoadTest

/-- How a user came to its end. -/
inductive Exit where
  /-- between two iterations -/
  | retired
  /-- in an iteration that was dropped -/
  | aborted
deriving DecidableEq

/-- Where a user stands. -/
inductive Life where
  /-- between two iterations, about to begin the next one -/
  | ready
  /-- in an iteration that began at some time, waiting -/
  | busy (began : Duration) (activity : Activity)
  /-- between two iterations, pausing -/
  | pausing
  | gone (exit : Exit)

/-- Whether the user has come to its end. -/
def Life.isGone : Life → Bool
  | gone _ => true
  | _ => false

/-- A virtual user. -/
structure User where
  /-- From one on, and never used again. -/
  id : Nat
  /-- The number of its latest iteration, from one on. -/
  iteration : Nat
  /-- The step that the iteration is in. -/
  step : Option String
  /-- It is to stop after its iteration. -/
  retired : Bool
  life : Life
  /-- When it last moved. -/
  since : Duration

namespace User

/-- A user that has not begun. -/
def fresh (now : Duration) (id : Nat) : User := ⟨id, 0, none, false, .ready, now⟩

/-- The user, to stop after its iteration. -/
def retire (user : User) : User := { user with retired := true }

/-- Whether the user has come to its end. -/
def isGone (user : User) : Bool := user.life.isGone

end User

/-- How much a line of a log matters. -/
inductive Level where
  | info
  | warn
  | error
deriving DecidableEq

/-- What happened in a run. -/
inductive Entry where
  | log (level : Level) (message : String)
  | began (user iteration : Nat) (time : Duration)
  | sent (user : Nat) (request : Outgoing)
  /-- a request was answered or lost -/
  | settled (user : Nat) (reply : Reply)
  /-- an iteration ran to its end, in some step -/
  | ended (user iteration : Nat) (time : Duration) (step : Option String)
      (fault : Option IterationFault)
  | dropped (user iteration : Nat) (time : Duration)
  | left (user : Nat) (exit : Exit)

/-- All that is kept of a run besides its users. -/
structure Journal where
  recorder : Recorder Float
  /-- What happened, the latest first. -/
  entries : List Entry
  /-- What iterations wrote down, the latest first. -/
  notes : List String

namespace Journal

/-- The journal with one more entry. -/
def add (journal : Journal) (entry : Entry) : Journal :=
  { journal with entries := entry :: journal.entries }

/-- The journal with a line of the log. -/
def log (journal : Journal) (level : Level) (message : String) : Journal :=
  journal.add (.log level message)

end Journal

/-- What a run is made of. -/
structure Setup where
  plan : Plan
  /-- What a user does in an iteration, by the numbers of both. -/
  scenario : Nat → Nat → Activity
  /-- How many users the schedule asks for at a time. -/
  usersAt : Duration → Nat
  /-- What the clock shows by which samples are timed. -/
  clock : Duration → Duration

/-- The setup of a plan, whose clock shows the time of the run. -/
def Setup.of (plan : Plan) (scenario : Nat → Nat → Activity) : Setup :=
  ⟨plan, scenario, plan.schedule.usersAt, id⟩

/-- How long something took by the clock: never less than a nanosecond. -/
def Setup.took (setup : Setup) (began now : Duration) : Duration :=
  .ofNanos (max 1 ((setup.clock now).nanos - (setup.clock began).nanos))

/-- What an iteration that ended is recorded as. -/
def iterationSamples (took : Duration) (failed : Bool) : List (Sample Float) :=
  [Sample.counter BuiltIn.iterations 1, Sample.trend BuiltIn.iterationDuration took.toMillis,
    Sample.rate BuiltIn.iterationFailed failed]

/-- Samples recorded at some time; those that are refused do not matter. -/
def Journal.record (setup : Setup) (now : Duration) (journal : Journal)
    (samples : List (Sample Float)) : Journal :=
  { journal with
    recorder := journal.recorder.recordAll <| samples.map fun sample =>
      { sample with offset := setup.clock now }.withTags setup.plan.tags }

namespace User

/-- The user after an iteration that ended. -/
def complete (setup : Setup) (now began : Duration) (fault : Option IterationFault) (user : User)
    (journal : Journal) : User × Journal :=
  let journal := journal.record setup now (iterationSamples (setup.took began now) fault.isSome)
  ({ user with life := if setup.plan.sleep.isSome then .pausing else .ready },
    journal.add (.ended user.id user.iteration now user.step fault))

/-- The user in an iteration that goes on up to where it waits or ends. -/
def proceed (setup : Setup) (now began : Duration) (activity : Activity) (user : User)
    (journal : Journal) : User × Journal :=
  let (activity, scene) := activity.proceed setup.plan.tags (setup.clock now)
    ⟨journal.recorder, user.step, journal.notes⟩
  let user := { user with step := scene.step, since := now }
  let journal := { journal with recorder := scene.recorder, notes := scene.notes }
  match activity with
  | .finish fault => user.complete setup now began fault journal
  | .send request _ =>
    ({ user with life := .busy began activity }, journal.add (.sent user.id request))
  | _ => ({ user with life := .busy began activity }, journal)

/-- The user at its end. -/
def leave (exit : Exit) (user : User) (journal : Journal) : User × Journal :=
  ({ user with life := .gone exit }, journal.add (.left user.id exit))

/-- The user in its next iteration. -/
def begin (setup : Setup) (now : Duration) (user : User) (journal : Journal) : User × Journal :=
  let iteration := user.iteration + 1
  { user with iteration, step := none }.proceed setup now now (setup.scenario user.id iteration)
    (journal.add (.began user.id iteration now))

/-- **What a user does between two iterations**: it stops if it is retired, or if iterations are
being dropped. -/
def arrive (setup : Setup) (now : Duration) (aborting : Bool) (user : User) (journal : Journal) :
    User × Journal :=
  if user.retired then user.leave .retired journal
  else if aborting then user.leave .aborted journal
  else user.begin setup now journal

/-- The user, whose iteration is dropped. -/
def drop (now : Duration) (user : User) (journal : Journal) : User × Journal :=
  user.leave .aborted (journal.add (.dropped user.id user.iteration now))

/-- The user when the run is closed: what it is still in is dropped. -/
def discard (now : Duration) (user : User) (journal : Journal) : User × Journal :=
  match user.life with
  | .gone _ => (user, journal)
  | .busy .. => user.drop now journal
  | _ => user.leave .aborted journal

/-- **What a user does after a signal.** -/
def advance (setup : Setup) (now : Duration) (aborting : Bool) (signal : Signal) (user : User)
    (journal : Journal) : User × Journal :=
  match user.life with
  | .gone _ => (user, journal)
  | .ready => user.arrive setup now aborting journal
  | .pausing =>
    match signal with
    | .wake => user.arrive setup now aborting journal
    | .reply _ => (user, journal)
  | .busy began activity =>
    if aborting then user.drop now journal
    else
      match activity.receive signal with
      | none => (user, journal)
      | some next =>
        user.proceed setup now began next <|
          match signal with
          | .wake => journal
          | .reply reply => journal.add (.settled user.id reply)

end User

end LoadTest
