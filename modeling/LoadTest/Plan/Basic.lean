/-
**Plans.**

A plan is all that a run needs to know: the schedule, where requests go, the thresholds, and how
long things may take. `Plan.validate` checks what a run relies on; nothing is capped silently.

* `Plan.named`: the plan with nothing but its name, and the defaults;
* `Plan.validate`: the first fault of a plan, if it has one.
-/

import LoadTest.Schedule
import LoadTest.Plan.Fault

namespace LoadTest

/-- The pause between two iterations of a virtual user. -/
inductive SleepPolicy where
  | fixed (span : Duration)
  /-- any span from the least to the most -/
  | uniform (least most : Duration)
deriving DecidableEq

/-- The shortest pause that the policy allows. -/
def SleepPolicy.shortest : SleepPolicy → Duration
  | fixed span => span
  | uniform least _ => least

/-- All that a run needs to know. -/
structure Plan where
  name : String
  schedule : Schedule
  baseUrl : Option Url
  /-- Sent with every request that does not set them itself. -/
  headers : List (String × String)
  sleep : Option SleepPolicy
  thresholds : List Threshold
  maxUsers : Nat
  tick : Duration
  gracefulStop : Duration
  timeout : Duration
  thresholdInterval : Duration
  /-- Added to every sample. -/
  tags : Tags

/-- The statuses from the first to below the second one are expected; all others count as failed
requests. -/
def expectedStatuses : Nat × Nat := (200, 400)

/-- Whether a status is an expected one. -/
def isExpectedStatus (status : Nat) : Bool :=
  expectedStatuses.1 ≤ status && status < expectedStatuses.2

namespace Plan

/-- The plan with nothing but its name: up to 10000 users, a tick of 100 ms, half a minute to stop
gracefully, a minute for a request and two seconds between looks at the thresholds. -/
def named (name : String) : Plan where
  name
  schedule := ⟨0, []⟩
  baseUrl := none
  headers := []
  sleep := none
  thresholds := []
  maxUsers := 10000
  tick := .ofMillis 100
  gracefulStop := .ofWholeSeconds 30
  timeout := .ofWholeSeconds 60
  thresholdInterval := .ofWholeSeconds 2
  tags := .empty

/-- The plan with one more stage. -/
def stage (plan : Plan) (stage : Stage) : Plan :=
  { plan with schedule := { plan.schedule with stages := plan.schedule.stages ++ [stage] } }

/-- The plan with one more header. -/
def header (plan : Plan) (name value : String) : Plan :=
  { plan with headers := plan.headers ++ [(name, value)] }

/-- The plan with a token that every request carries. -/
def bearer (plan : Plan) (token : String) : Plan := plan.header "Authorization" ("Bearer " ++ token)

/-- The plan with one more threshold. -/
def threshold (plan : Plan) (threshold : Threshold) : Plan :=
  { plan with thresholds := plan.thresholds ++ [threshold] }

/-- A duration that is not longer than supported. -/
def checkLength (what : String) (value : Duration) : Except PlanFault Unit :=
  if longestSupported < value then .error (.tooLong what value) else .ok ()

/-- The named durations of a plan. -/
def namedDurations (plan : Plan) : List (String × Duration) :=
  [("Schedule", plan.schedule.total), ("tick", plan.tick), ("gracefulStop", plan.gracefulStop),
    ("timeout", plan.timeout), ("thresholdInterval", plan.thresholdInterval)] ++
  plan.thresholds.filterMap fun threshold =>
    (threshold.abort.bind AbortRule.delay).map fun delay => ("delayAbortEval", delay)

/-- The targets of a plan with the place that is named if one exceeds the cap. -/
def targets (plan : Plan) : List (Nat × Nat) :=
  (0, plan.schedule.startUsers) ::
    plan.schedule.stages.zipIdx.map fun (stage, place) => (place, stage.target)

/-- The pause has its ends in order and is not too long. -/
def checkSleep : Option SleepPolicy → Except PlanFault Unit
  | none => .ok ()
  | some (.fixed span) => checkLength "sleep" span
  | some (.uniform least most) =>
    if most < least then .error (.invertedSleep least most) else checkLength "sleep" most

/-- A header as a plan may have it. -/
def checkHeader (name value : String) : Except PlanFault Unit :=
  match Header.check name value with
  | .ok () => .ok ()
  | .error fault => .error (.header name fault)

/-- **The plan, if a run can rely on it**; otherwise its first fault. -/
def validate (plan : Plan) : Except PlanFault Plan := do
  if plan.maxUsers = 0 then throw .noUsersAllowed
  if plan.tick.isZero then throw .zeroTick
  plan.namedDurations.forM fun (what, value) => checkLength what value
  plan.targets.forM fun (place, target) =>
    if plan.maxUsers < target then .error (.userCap place target plan.maxUsers) else .ok ()
  checkSleep plan.sleep
  plan.headers.forM fun (name, value) => checkHeader name value
  .ok plan

end Plan

end LoadTest
