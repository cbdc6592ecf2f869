/-
**What the program does.**

The program reads a plan file and shows its schedule, or runs it and prints the summary of the run.
What it needs from the world around it comes as a `World`, so all that it does is said here, in any
monad. It ends with a number: 2 for a command line that asks for nothing, 0 for help, and otherwise
the code of what was done.

* `Plan.outline`: the schedule of a plan, in text;
* `loadPlan`: the plan and the script of a plan file;
* `Program.execute`: all that the program does.
-/

import LoadTest.Command.Help
import LoadTest.Command.Line
import LoadTest.Command.LogFilter
import LoadTest.Plan.Json
import LoadTest.Plan.Resolve
import LoadTest.Run.Basic
import LoadTest.Run.Summary
import LoadTest.Script.Iteration

namespace LoadTest

open Decimal Text

/-! ### The schedule in text -/

/-- When each stage ends, with the stage. -/
def Schedule.ends (start : Duration) : List Stage → List (Duration × Stage)
  | [] => []
  | stage :: rest => (start + stage.duration, stage) :: ends (start + stage.duration) rest

/-- The line about the users at a time, and how they come to be. -/
def outlineLine (time : String) (users : Nat) (how : String) : String :=
  "  " ++ fillStart 10 time ++ "  " ++ fillStart 5 (showNat users) ++ " VUs (" ++ how ++ ")\n"

/-- The line about a threshold. -/
def Threshold.outline (threshold : Threshold) : String :=
  "  threshold " ++ threshold.show ++ (if threshold.abort.isSome then " (abortOnFail)" else "") ++
    "\n"

/-- **The schedule of a plan in text**, with its caps, thresholds and number of requests. -/
def Plan.outline (plan : Plan) (requests : Nat) : String :=
  "plan: " ++ plan.name ++ "\n" ++
    outlineLine "0s" plan.schedule.startUsers "start" ++
    String.join ((Schedule.ends .zero plan.schedule.stages).map fun (time, stage) =>
      outlineLine (Units.format time) stage.target ("over " ++ Units.format stage.duration)) ++
    "  peak " ++ showNat plan.schedule.peak ++ " VUs, cap " ++ showNat plan.maxUsers ++ "\n" ++
    String.join (plan.thresholds.map Threshold.outline) ++
    "  " ++ showNat requests ++ " request steps\n"

/-! ### Plans and scripts -/

/-- **The plan and the script of a plan file**, which has requests. -/
def loadPlan (file : PlanFile) (environment : Environment) : Except PlanFault (Plan × Script) := do
  let loaded ← file.resolve environment
  if loaded.requests.isEmpty then throw (.step 0 .noRequests)
  return (loaded.plan, ← Script.ofSteps loaded.requests)

/-- What the run of a plan file is made of; `draws` are the numbers that are drawn, by user,
iteration and place. -/
def runSetup (options : RunOptions) (environment : Environment) (draws : Nat → Nat → Nat → Nat)
    (file : PlanFile) : Except PlanFault Setup := do
  let (plan, script) ← loadPlan (options.apply file) environment
  let client ← Client.ofPlan plan
  return Setup.of plan fun id iteration => script.iteration client (draws id iteration)

/-! ### The program -/

/-- What the log says about what happened in a run. -/
def Entry.line? : Entry → Option (Level × String)
  | .log level message => some (level, message)
  | .ended _ _ _ _ (some fault) => some (.warn, "Iteration failed: " ++ fault.message)
  | _ => none

/-- What the program needs from the world around it. -/
structure World (m : Type → Type) where
  environment : Environment
  /-- The numbers that are drawn, by user, iteration and place. -/
  draws : Nat → Nat → Nat → Nat
  /-- The text of a file, or why it cannot be read. -/
  read : String → m (Except String String)
  /-- Writes a text to a file, unless something is in the way. -/
  write : String → String → m (Except String Unit)
  /-- A run to its end, which comes at a deadline at the latest. -/
  play : Setup → Option Duration → m Run
  /-- Puts a text out. -/
  print : String → m Unit
  /-- Puts a text out beside what is asked for. -/
  remark : String → m Unit
  /-- Puts a line into the log. -/
  log : Level → String → m Unit

/-- How much of the log is shown unless the environment says otherwise. -/
def Invocation.verbosity (invocation : Invocation) : Verbosity :=
  if invocation.verbose then .debug else if invocation.quiet then .warn else .info

/-- The variable with the filter of the log. -/
def filterVariable : String := "RUST_LOG"

/-- **What the log shows**: the filter of the environment, if that is well formed. -/
def Invocation.filter (invocation : Invocation) (environment : Environment) : LogFilter :=
  ((environment filterVariable).bind LogFilter.parse?).getD (.ofVerbosity invocation.verbosity)

namespace Program

variable {m : Type → Type} [Monad m]

/-- The plan file under a path. -/
def readPlan (world : World m) (path : String) : m (Except PlanFault PlanFile) := do
  match ← world.read path with
  | .error reason => return .error (.unreadable path reason)
  | .ok text =>
    return match PlanFile.parse? text with
      | some file => .ok file
      | none => .error (.notJson "not a plan")

/-- Ends for a fault of the plan. -/
def refusePlan (world : World m) (fault : PlanFault) : m ExitCode := do
  world.log .error fault.message
  return .invalidPlan

/-- Shows the schedule of a plan file. -/
def validate (world : World m) (path : String) : m ExitCode := do
  match (← readPlan world path) >>= fun file => loadPlan file world.environment with
  | .error fault => refusePlan world fault
  | .ok (plan, script) =>
    world.print (plan.outline script.steps.length)
    return .success

/-- The summary of a run as it is printed. -/
def printed (format : SummaryFormat) (result : RunResult) : String :=
  (match format with
  | .text => result.text
  | .json => result.summaryJson.pretty) ++ "\n"

/-- Writes the summary of a run to a file. -/
def «export» (world : World m) (path : String) (result : RunResult) : m ExitCode := do
  match ← world.write path result.summaryJson.pretty with
  | .error reason =>
    world.log .error ("Unable to write summary to " ++ path ++ ": " ++ reason)
    return .engineFault
  | .ok _ =>
    world.log .info ("Summary written to " ++ path)
    return result.exitCode

/-- Prints and writes what a run came to. -/
def conclude (world : World m) (options : RunOptions) (result : RunResult) : m ExitCode := do
  world.print (printed options.format result)
  match options.summaryExport with
  | none => return result.exitCode
  | some path => «export» world path result

/-- Puts what happened in a run into the log. -/
def logRun (world : World m) (run : Run) : m Unit :=
  (run.entries.filterMap Entry.line?).forM fun (level, line) => world.log level line

/-- **Runs a plan file.** -/
def run (world : World m) (options : RunOptions) : m ExitCode := do
  match (← readPlan world options.plan) >>= runSetup options world.environment world.draws with
  | .error fault => refusePlan world fault
  | .ok setup =>
    let run ← world.play setup options.duration
    logRun world run
    match run.phase with
    | .closed result _ => conclude world options result
    | .faulted fault => refusePlan world fault
    | _ => return .engineFault

/-- Says why nothing is done. -/
def refuse (world : World m) (refusal : Refusal) : m Nat := do
  match refusal with
  | .help _ | .version =>
    world.print refusal.message
    return 0
  | _ =>
    world.remark refusal.message
    return 2

/-- Does what is asked for. -/
def perform (world : World m) (command : Command) : m ExitCode :=
  match command with
  | .run options => run world options
  | .validate path => validate world path

/-- The world, of whose log only what a filter shows is seen. -/
def within (world : World m) (filter : LogFilter) : World m :=
  { world with log := fun level line => if filter.shows level then world.log level line else pure () }

/-- **All that the program does**, with the number that it ends with. -/
def execute (world : World m) (words : List String) : m Nat :=
  match Invocation.parse words with
  | .error refusal => refuse world refusal
  | .ok invocation =>
    ExitCode.number <$>
      perform (within world (invocation.filter world.environment)) invocation.command

end Program

end LoadTest
