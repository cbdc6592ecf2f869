/-
**From a plan file to a plan.**

Resolving a plan file reads its durations, thresholds and URLs, replaces the variables of the
environment in the base URL, the header values, and the URL and text body of every request, and
checks the plan that results. Parts are resolved in the order of the file; the first fault wins.

* `PlanFile.resolve`: the plan and its requests;
* `RequestStep.resolve`: one request.
-/

import LoadTest.Plan.Basic
import LoadTest.Plan.File
import LoadTest.Url.Reference

namespace LoadTest

/-- The methods that a request may use. -/
def supportedMethods : List String := ["GET", "POST", "PUT", "PATCH", "DELETE", "HEAD", "OPTIONS"]

/-- A plan that can be run, with the requests of its iterations. -/
structure ResolvedPlan where
  plan : Plan
  requests : List RequestStep

/-- The duration of a plan file. -/
def DurationSpec.resolve (spec : DurationSpec) : Except PlanFault Duration :=
  spec.toDuration.mapError .duration

/-- A text with the variables of the environment replaced. -/
def Environment.resolve (environment : Environment) (text : String) : Except PlanFault String :=
  (environment.expand text).mapError .missingVariable

/-- The part of an optional setting, if it is there. -/
def resolveOption {β γ : Type} (resolve : β → Except PlanFault γ) :
    Option β → Except PlanFault (Option γ)
  | none => .ok none
  | some value => (resolve value).map some

/-- The duration of an optional setting, or its default. -/
def resolveDuration (spec : Option DurationSpec) (default : Duration) :
    Except PlanFault Duration :=
  match spec with
  | none => .ok default
  | some spec => spec.resolve

/-- The threshold of a metric; its delay counts only if it may stop the run. -/
def ThresholdSpec.resolve (metric : String) : ThresholdSpec → Except PlanFault Threshold
  | expression text => (Threshold.parse metric text).mapError .threshold
  | detailed text abortOnFail delay => do
    let threshold ← (Threshold.parse metric text).mapError .threshold
    if abortOnFail then
      return threshold.abortOnFail (← resolveOption DurationSpec.resolve delay)
    else return threshold

/-- The pause of a plan file. -/
def SleepSpec.resolve : SleepSpec → Except PlanFault SleepPolicy
  | fixed span => span.resolve.map .fixed
  | range least most => do return .uniform (← least.resolve) (← most.resolve)

/-- The base URL of a plan file. -/
def resolveBaseUrl (environment : Environment) (text : String) : Except PlanFault Url := do
  let expanded ← environment.resolve text
  (Url.parse expanded).mapError (.baseUrl expanded)

/-- A header of a step with its variables replaced. -/
def resolveHeader (environment : Environment) (header : String × String) :
    Except PlanFault (String × String) := do
  let value ← environment.resolve header.2
  Plan.checkHeader header.1 value
  return (header.1, value)

/-- **A request as it is sent**, apart from what it captures from responses. -/
def RequestStep.resolve (environment : Environment) (place : Nat) (step : RequestStep) :
    Except PlanFault RequestStep := do
  let method := step.method.map Char.toUpper
  if !supportedMethods.contains method then throw (.method step.method)
  if step.json.isSome && step.body.isSome then throw (.step place .twoBodies)
  step.checks.forM fun check => do
    let _ ← resolveOption DurationSpec.resolve check.maxDuration
  let headers ← step.headers.toList.mapM (resolveHeader environment)
  let url ← environment.resolve step.url
  let body ← resolveOption environment.resolve step.body
  return { step with method, url, headers := .ofList headers, body }

/-- **The plan and the requests of a plan file.** -/
def PlanFile.resolve (file : PlanFile) (environment : Environment) :
    Except PlanFault ResolvedPlan := do
  let plan := Plan.named (file.name.getD "default")
  let stages ← file.stages.mapM fun stage => do return ⟨← stage.duration.resolve, stage.target⟩
  let thresholds ← file.thresholds.toList.mapM fun (metric, specs) =>
    specs.mapM (ThresholdSpec.resolve metric)
  let baseUrl ← resolveOption (resolveBaseUrl environment) file.baseUrl
  let headers ← file.headers.toList.mapM fun (name, value) => do
    return (name, ← environment.resolve value)
  let sleep ← resolveOption SleepSpec.resolve file.sleep
  let tick ← resolveDuration file.tick plan.tick
  let gracefulStop ← resolveDuration file.gracefulStop plan.gracefulStop
  let timeout ← resolveDuration file.timeout plan.timeout
  let thresholdInterval ← resolveDuration file.thresholdInterval plan.thresholdInterval
  let requests ← file.requests.zipIdx.mapM fun (step, place) => step.resolve environment place
  let plan ← Plan.validate {
    plan with
    schedule := ⟨file.startUsers.getD 0, stages⟩
    thresholds := thresholds.flatten
    maxUsers := file.maxUsers.getD plan.maxUsers
    tags := file.tags
    baseUrl, headers, sleep, tick, gracefulStop, timeout, thresholdInterval }
  return ⟨plan, requests⟩

end LoadTest
