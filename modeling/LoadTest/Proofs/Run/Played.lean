/-
**What an iteration does against a server.**

The samples that an iteration records, the requests that it sends and how it ends follow from what a
server answers. A user that begins the iteration and gets the answers as signals does just that, and
then it completes the iteration.

* `Activity.play`: what is done, and the end;
* `Journal.after`: a journal in which it is written down;
* `User.hear_play`, `User.hear_begin`: a user that hears the signals of a server plays its
  iteration.
-/

import LoadTest.Run.User

namespace LoadTest

/-- One thing that is done in an iteration. -/
inductive Deed where
  | named (step : String)
  /-- a sample, as the recorder gets it -/
  | recorded (sample : Sample Float)
  | noted (text : String)
  /-- a request with what became of it -/
  | sent (request : Outgoing) (reply : Reply)
  | slept (span : Duration)

namespace Deed

/-- The sample that is recorded. -/
def sample? : Deed → Option (Sample Float)
  | recorded sample => some sample
  | _ => none

/-- The request that is sent. -/
def request? : Deed → Option Outgoing
  | sent request _ => some request
  | _ => none

/-- The step that is named, or else the one before. -/
def stepAfter (step : Option String) : Deed → Option String
  | named name => some name
  | _ => step

end Deed

/-- A sample as it is recorded in an iteration: with the time and the tags of the plan. -/
def Sample.stamp (tags : Tags) (clock : Duration) (sample : Sample Float) : Sample Float :=
  { sample with offset := clock }.withTags tags

/-- **What an activity does if a server answers its requests, and how it ends.** The server looks at
all requests up to the one that it answers, the latest first. -/
def Activity.play (server : List Outgoing → Reply) (tags : Tags) (clock : Duration) :
    Activity → Recorder Float → List Outgoing → List Deed × Option IterationFault
  | finish fault, _, _ => ([], fault)
  | step name next, recorder, sent =>
    let rest := next.play server tags clock recorder sent
    (.named name :: rest.1, rest.2)
  | emit sample next, recorder, sent =>
    let (after, fault) := recorder.record (sample.stamp tags clock)
    let rest := (next fault).play server tags clock after sent
    (.recorded (sample.stamp tags clock) :: rest.1, rest.2)
  | note text next, recorder, sent =>
    let rest := next.play server tags clock recorder sent
    (.noted text :: rest.1, rest.2)
  | send request next, recorder, sent =>
    let reply := server (request :: sent)
    let rest := (next reply).play server tags clock recorder (request :: sent)
    (.sent request reply :: rest.1, rest.2)
  | sleep span next, recorder, sent =>
    let rest := next.play server tags clock recorder sent
    (.slept span :: rest.1, rest.2)

namespace Journal

/-- The journal after a user did something. -/
def afterDeed (user : Nat) (journal : Journal) : Deed → Journal
  | .recorded sample => { journal with recorder := (journal.recorder.record sample).1 }
  | .noted text => { journal with notes := text :: journal.notes }
  | .sent request reply => (journal.add (.sent user request)).add (.settled user reply)
  | .named _ | .slept _ => journal

/-- **The journal after all that a user did.** -/
def after (journal : Journal) (user : Nat) (deeds : List Deed) : Journal :=
  deeds.foldl (afterDeed user) journal

end Journal

namespace User

/-- The user after some signals, all at one time. -/
def hear (setup : Setup) (now : Duration) (signals : List Signal) (state : User × Journal) :
    User × Journal :=
  signals.foldl (fun state signal => state.1.advance setup now false signal state.2) state

/-- **A user that hears the signals of a server plays its activity, and then completes its
iteration.** What was named and written down before does not show in the signals. -/
theorem hear_play (setup : Setup) (now began : Duration) (server : List Outgoing → Reply)
    (activity : Activity) (user : User) (journal : Journal) (sent : List Outgoing)
    (step : Option String) (notes : List String) :
    let played := activity.play server setup.plan.tags (setup.clock now) journal.recorder sent
    let signals := activity.signals server setup.plan.tags (setup.clock now)
      ⟨journal.recorder, step, notes⟩ sent
    hear setup now signals (user.proceed setup now began activity journal) =
      { user with step := played.1.foldl Deed.stepAfter user.step, since := now }.complete setup now
        began played.2 (journal.after user.id played.1) := by
  intro played signals
  induction activity generalizing user journal sent step with
  | finish fault => rfl
  | step name next ih => exact ih { user with step := some name } journal sent (some name)
  | note text next ih =>
    exact ih user { journal with notes := text :: journal.notes } sent step
  | emit sample next ih =>
    exact ih _ user { journal with
      recorder := (journal.recorder.record (sample.stamp setup.plan.tags (setup.clock now))).1 }
      sent step
  | send request next ih =>
    exact ih (server (request :: sent))
      { user with since := now, life := .busy began (.send request next) }
      ((journal.add (.sent user.id request)).add (.settled user.id (server (request :: sent))))
      (request :: sent) step
  | sleep span next ih =>
    exact ih { user with since := now, life := .busy began (.sleep span next) } journal sent step

/-- A user that begins an iteration against a server plays it from the start. -/
theorem hear_begin (setup : Setup) (now : Duration) (server : List Outgoing → Reply)
    {activity : Activity} {user : User} (journal : Journal) (sent : List Outgoing)
    (scripted : setup.scenario user.id (user.iteration + 1) = activity) :
    let played := activity.play server setup.plan.tags (setup.clock now) journal.recorder sent
    let signals := activity.signals server setup.plan.tags (setup.clock now)
      ⟨journal.recorder, none, journal.notes⟩ sent
    hear setup now signals (user.begin setup now journal) =
      { user with
        iteration := user.iteration + 1
        step := played.1.foldl Deed.stepAfter none
        since := now }.complete setup now now played.2
          ((journal.add (.began user.id (user.iteration + 1) now)).after user.id played.1) := by
  have began : user.begin setup now journal =
      { user with iteration := user.iteration + 1, step := none }.proceed setup now now activity
        (journal.add (.began user.id (user.iteration + 1) now)) := by
    unfold User.begin
    dsimp only
    rw [scripted]
  dsimp only
  rw [began]
  exact hear_play setup now now server activity
    { user with iteration := user.iteration + 1, step := none }
    (journal.add (.began user.id (user.iteration + 1) now)) sent none journal.notes

end User

end LoadTest
