/-
**Runs.**

A run follows the schedule: on every tick it removes the users that are gone and asks the pool for
as many as the schedule wants. It ends when the schedule is over, when it is told to, at a deadline
or when a threshold stops it. Then all users are retired and have some time to end their
iterations; iterations that are not over by then are dropped. At last the recorder is sealed and
the thresholds are judged.

* `Happening`: what happens to a run from outside;
* `Run.step`: a run after something happened;
* `Run.follow`: a run after many things happened.
-/

import LoadTest.Duration.Units
import LoadTest.Run.Pool
import LoadTest.Run.Result
import LoadTest.Threshold.Watch

namespace LoadTest

open Decimal

/-- What happens to a run. -/
inductive Happening where
  /-- the schedule is looked at -/
  | tick
  /-- the run is to stop -/
  | cancel
  /-- the run is to stop, and iterations are dropped -/
  | abort
  | deadline
  /-- the thresholds that may stop the run are looked at -/
  | watch
  | user (id : Nat) (signal : Signal)
  /-- the time to end iterations is over -/
  | graceOver
  /-- the run is closed; the iterations that are left are dropped -/
  | close

/-- How many users ended by themselves and how many were dropped when the run stopped. -/
structure Departures where
  retired : Nat
  aborted : Nat
deriving DecidableEq

/-- What a run does. -/
inductive Phase where
  | running
  /-- users end their iterations since some time -/
  | stopping (status : RunStatus) (since : Duration)
  | closed (result : RunResult) (departures : Departures)
  | faulted (fault : PlanFault)

/-- A run at some time. -/
structure Run where
  pool : Pool
  journal : Journal
  phase : Phase
  /-- The stage that was announced last. -/
  stage : Option Nat
  /-- Whether iterations are being dropped. -/
  aborting : Bool

namespace Run

/-- The run with a line in its log. -/
def log (run : Run) (level : Level) (message : String) : Run :=
  { run with journal := run.journal.log level message }

/-- **The run of a setup that begins.** -/
def start (setup : Setup) : Run :=
  let schedule := setup.plan.schedule
  { pool := .empty
    journal := ⟨.new (setup.plan.thresholds.map Threshold.metric), [], []⟩
    phase := .running
    stage := none
    aborting := false : Run }.log .info <|
      "Starting run with " ++ showNat schedule.stages.length ++ " stages over " ++
        Units.format schedule.total ++ ", " ++ showNat setup.plan.thresholds.length ++ " thresholds"

/-- The run, whose users are all to end their iterations. -/
def stop (run : Run) (status : RunStatus) (now : Duration) : Run :=
  { run with pool := run.pool.retireAll, phase := .stopping status now }

/-- The announcement of a stage, by its place. -/
def announcement (schedule : Schedule) (place : Nat) : Option String :=
  schedule.stages[place]?.map fun stage =>
    "Stage " ++ showNat (place + 1) ++ "/" ++ showNat schedule.stages.length ++ ": ramping to " ++
      showNat stage.target ++ " VUs over " ++ Units.format stage.duration

/-- The run, with the stage announced that begins. -/
def announce (run : Run) (schedule : Schedule) (now : Duration) : Run :=
  let stage := schedule.stageAt now
  if stage = run.stage then run
  else
    { (match stage.bind (announcement schedule) with
      | some message => run.log .info message
      | none => run) with stage }

/-- The run after the schedule was looked at. -/
def tick (setup : Setup) (run : Run) (now : Duration) : Run :=
  let run := run.announce setup.plan.schedule now
  let pool := run.pool.reap
  if setup.plan.schedule.isFinished now then { run with pool }.stop .completed now
  else
    match pool.setTarget now setup.plan.maxUsers (setup.usersAt now) with
    | .ok pool => { run with pool }
    | .error fault => { run with pool, phase := .faulted fault }

/-- The run after its thresholds were looked at. -/
def watch (setup : Setup) (run : Run) (now : Duration) : Run :=
  match run.journal.recorder.breach? setup.plan.thresholds (setup.clock now) with
  | none => run
  | some breach => (run.log .warn breach.message).stop .abortedByThreshold now

/-- The run after a user got a signal. -/
def advance (setup : Setup) (run : Run) (now : Duration) (id : Nat) (signal : Signal) : Run :=
  match run.pool.find? id with
  | none => run
  | some user =>
    let (user, journal) := user.advance setup now run.aborting signal run.journal
    { run with pool := run.pool.replace user, journal }

/-- The run, whose iterations are dropped from now on. -/
def graceOver (setup : Setup) (run : Run) : Run :=
  let busy := (run.pool.users.filter fun user => !user.isGone).length
  if busy = 0 || run.aborting then run
  else
    let run := { run with aborting := true }
    if setup.plan.gracefulStop.isZero then run
    else
      run.log .warn (showNat busy ++ " VUs still busy after " ++
        Units.format setup.plan.gracefulStop ++ ", aborting their iterations")

/-- The users as they are when the run is closed, those that are left being dropped. -/
def dropAll (now : Duration) : List User → Journal → List User × Journal
  | [], journal => ([], journal)
  | user :: rest, journal =>
    let (user, journal) := user.discard now journal
    let (rest, journal) := dropAll now rest journal
    (user :: rest, journal)

/-- How users came to their ends. -/
def departures (users : List User) : Departures :=
  let count (exit : Exit) := users.countP fun user =>
    match user.life with
    | .gone other => other = exit
    | _ => false
  ⟨count .retired, count .aborted⟩

/-- **The result of a run** that ended with a status. -/
def result (setup : Setup) (status : RunStatus) (peak : Nat) (recorder : Recorder Float)
    (now : Duration) : RunResult :=
  let snapshot := recorder.snapshot (setup.clock now)
  { name := setup.plan.name
    status
    duration := recorder.elapsed (setup.clock now)
    iterations := floorWord (recorder.total BuiltIn.iterations)
    peakUsers := peak
    metrics := snapshot.summaries
    checks := snapshot.checks
    thresholds := snapshot.reports setup.plan.thresholds }

/-- The run with its recorder sealed and its thresholds judged. -/
def close (setup : Setup) (run : Run) (status : RunStatus) (now : Duration) : Run :=
  let (users, journal) := dropAll now run.pool.users run.journal
  let recorder := journal.recorder.close (setup.clock now)
  { run with
    pool := { run.pool with active := [], draining := users }
    journal := { journal with recorder }
    phase := .closed (result setup status run.pool.peak recorder now) (departures users) }

/-- **A run after something happened.** What cannot happen in its phase changes nothing; a run is
closed once all users are gone or iterations are being dropped. -/
def step (setup : Setup) (run : Run) (now : Duration) (happening : Happening) : Run :=
  match run.phase, happening with
  | .closed .., _ | .faulted _, _ => run
  | _, .user id signal => run.advance setup now id signal
  | .running, .tick => run.tick setup now
  | .running, .cancel => (run.log .info "Run cancelled, stopping VUs").stop .interrupted now
  | .running, .deadline => (run.log .info "Deadline reached, stopping VUs").stop .interrupted now
  | .running, .abort =>
    ({ run with aborting := true }.log .warn "Run aborted, dropping in-flight iterations").stop
      .interrupted now
  | .running, .watch => run.watch setup now
  | .running, .graceOver | .running, .close => run
  | .stopping .., .abort => { run with aborting := true }
  | .stopping .., .graceOver => run.graceOver setup
  | .stopping status _, .close =>
    if run.pool.isQuiet || run.aborting then run.close setup status now else run
  | .stopping .., _ => run

/-- **A run after many things happened**, each at its time. -/
def follow (setup : Setup) (run : Run) (happenings : List (Duration × Happening)) : Run :=
  happenings.foldl (fun run next => run.step setup next.1 next.2) run

/-- What happened in a run, in its order. -/
def entries (run : Run) : List Entry := run.journal.entries.reverse

/-- The result of a run that is over. -/
def result? (run : Run) : Option RunResult :=
  match run.phase with
  | .closed result _ => some result
  | _ => none

end Run

end LoadTest
