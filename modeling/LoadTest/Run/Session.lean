/-
**Sessions of a single user.**

A session is a run in which one user goes through a number of iterations against a server, one
after the other and without pauses; after the last one the run is told to stop.

* `Plan.forSession`: the plan of a session;
* `Session.play`: the run of a session.
-/

import LoadTest.Run.Basic

namespace LoadTest

/-- The plan with a single user that never pauses. -/
def Plan.forSession (plan : Plan) : Plan :=
  { plan with
    schedule := ⟨1, [⟨.ofWholeSeconds 3600, 1⟩]⟩
    sleep := none }

/-- The requests that were sent in a run, the latest first. -/
def Run.sent (run : Run) : List Outgoing :=
  run.journal.entries.filterMap fun
    | .sent _ request => some request
    | _ => none

namespace Session

/-- The next iteration of a user, whose requests a server answers. The server looks at all requests
up to the one that it answers, the latest first. -/
def iteration (setup : Setup) (server : List Outgoing → Reply) (now : Duration) (run : Run)
    (id : Nat) : Run :=
  match run.pool.find? id with
  | none => run
  | some user =>
    let signals := (setup.scenario id (user.iteration + 1)).signals server setup.plan.tags
      (setup.clock now) ⟨run.journal.recorder, none, run.journal.notes⟩ run.sent
    run.follow setup ((Signal.wake :: signals).map fun signal => (now, .user id signal))

/-- So many iterations, one in every millisecond. -/
def iterations (setup : Setup) (server : List Outgoing → Reply) : Nat → Run → Run
  | 0, run => run
  | count + 1, run =>
    iteration setup server (.ofMillis (count + 1)) (iterations setup server count run) 1

/-- **The run of a session** with so many iterations. -/
def play (setup : Setup) (server : List Outgoing → Reply) (count : Nat) : Run :=
  let begun := (Run.start setup).step setup .zero .tick
  let finish : Duration := .ofMillis (count + 1)
  (iterations setup server count begun).follow setup
    [(finish, .cancel), (finish, .user 1 .wake), (finish, .close)]

end Session

end LoadTest
