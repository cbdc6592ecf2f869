/-
**Runs in virtual time.**

In virtual time nothing takes time but sleeps, replies and the waits in between, so a run can be
played as fast as it can be computed. Of all that is due the earliest happens next; of what is due
at the same time users come first, then what stops the run, then a tick, and a look at the
thresholds last.

* `User.waits`: how long a user waits, and for what;
* `Timeline.next?`: what happens next in a run;
* `Timeline.play`: a run in virtual time.
-/

import LoadTest.Run.Basic

namespace LoadTest

/-- How long a user waits from when it last moved, and for which signal; a server answers its
requests. -/
def User.waits (setup : Setup) (server : Outgoing → Reply) (aborting : Bool) (user : User) :
    Option (Duration × Signal) :=
  match user.life with
  | .gone _ => none
  | .ready => some (.zero, .wake)
  | .pausing =>
    if user.retired then some (.zero, .wake)
    else some ((setup.plan.sleep.map SleepPolicy.shortest).getD .zero, .wake)
  | .busy _ activity =>
    if aborting then some (.zero, .wake)
    else
      match activity with
      | .sleep span _ => some (span, .wake)
      | .send request _ => some ((server request).took, .reply (server request))
      | _ => none

/-- What is still to come in a run. -/
structure Timeline where
  nextTick : Duration
  /-- When the thresholds are looked at next. -/
  nextWatch : Option Duration
  cancelAt : Option Duration
  abortAt : Option Duration
  deadline : Option Duration

/-- What happens at a time, and what is to come after it. -/
structure Due where
  time : Duration
  happening : Happening
  rest : Timeline

namespace Timeline

/-- The timeline of a plan. Thresholds are never looked at if there is no time in between. -/
def ofPlan (plan : Plan) : Timeline where
  nextTick := .zero
  nextWatch := if plan.thresholdInterval.isZero then none else some plan.thresholdInterval
  cancelAt := none
  abortAt := none
  deadline := none

/-- What the users of a run do next. -/
def users (timeline : Timeline) (setup : Setup) (server : Outgoing → Reply) (run : Run) :
    List Due :=
  run.pool.users.filterMap fun user =>
    (user.waits setup server run.aborting).map fun (span, signal) =>
      ⟨user.since + span, .user user.id signal, timeline⟩

/-- What drops the iterations of a run. -/
def aborts (timeline : Timeline) : List Due :=
  timeline.abortAt.toList.map fun time => ⟨time, .abort, { timeline with abortAt := none }⟩

/-- What else happens to a run that goes on. -/
def outside (timeline : Timeline) (plan : Plan) : List Due :=
  (timeline.cancelAt.toList.map fun time =>
    ⟨time, .cancel, { timeline with cancelAt := none }⟩) ++
  timeline.aborts ++
  (timeline.deadline.toList.map fun time =>
    ⟨time, .deadline, { timeline with deadline := none }⟩) ++
  [⟨timeline.nextTick, .tick, { timeline with nextTick := timeline.nextTick + plan.tick }⟩] ++
  timeline.nextWatch.toList.map fun time =>
    ⟨time, .watch, { timeline with nextWatch := some (time + plan.thresholdInterval) }⟩

/-- All that is due in a run. -/
def dues (timeline : Timeline) (setup : Setup) (server : Outgoing → Reply) (run : Run)
    (now : Duration) : List Due :=
  match run.phase with
  | .running => timeline.users setup server run ++ timeline.outside setup.plan
  | .stopping _ since =>
    if run.pool.isQuiet then [⟨now, .close, timeline⟩]
    else
      timeline.users setup server run ++ timeline.aborts ++
        if run.aborting then []
        else [⟨since + setup.plan.gracefulStop, .graceOver, timeline⟩]
  | _ => []

/-- The earliest of all that is due; the first of what is due at the same time. -/
def earliest? : List Due → Option Due
  | [] => none
  | due :: rest => some (rest.foldl (fun best due => if due.time < best.time then due else best) due)

/-- **What happens next in a run.** -/
def next? (timeline : Timeline) (setup : Setup) (server : Outgoing → Reply) (run : Run)
    (now : Duration) : Option Due :=
  (earliest? (timeline.dues setup server run now)).map fun due =>
    if due.time < now then { due with time := now } else due

/-- **A run in virtual time** from some time on, in which at most so many things happen. -/
def play (setup : Setup) (server : Outgoing → Reply) : Nat → Timeline → Duration → Run → Run
  | 0, _, _, run => run
  | most + 1, timeline, now, run =>
    match timeline.next? setup server run now with
    | none => run
    | some due => play setup server most due.rest due.time (run.step setup due.time due.happening)

end Timeline

end LoadTest
