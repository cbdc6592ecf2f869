/-
**Plan files in JSON.**

A member that a part of the plan does not know is refused, so that no setting is misspelt unseen;
the details of a threshold and the ends of a pause skip such members. Every part but these two may
also be written as an array of its fields in order. What is written has all fields of a part.

* `PlanFile.parse?`: the plan file of a text;
* `PlanFile.json`: the file as JSON, with every field in its order.
-/

import LoadTest.Plan.File
import LoadTest.Json.Reader
import LoadTest.Json.Writer

namespace LoadTest

open Json (Reader)
open Decimal

namespace DurationSpec

/-- A number of seconds, or a text. -/
def reader : Reader DurationSpec :=
  .firstOf [fun room value => (Reader.float room value).map seconds,
    fun room value => (Reader.string room value).map text]

/-- The duration as it was written. -/
def json : DurationSpec → Json
  | seconds value => .ofFloat value
  | text value => .string value

end DurationSpec

namespace StageSpec

/-- Reads a stage. -/
def reader : Reader StageSpec :=
  .record ["duration", "target"] .refused fun record => do
    some ⟨← record.need "duration" DurationSpec.reader, ← record.need "target" (.nat maxWord)⟩

/-- The stage as JSON. -/
def json (stage : StageSpec) : Json :=
  .object [("duration", stage.duration.json), ("target", .ofNat stage.target)]

end StageSpec

namespace ThresholdSpec

/-- Reads a threshold. -/
def reader : Reader ThresholdSpec :=
  .firstOf [fun room value => (Reader.string room value).map expression,
    .object ["threshold", "abortOnFail", "delayAbortEval"] .skipped fun record => do
      some (detailed (← record.need "threshold" .string)
        (← record.withDefault "abortOnFail" .bool false)
        (← record.maybe "delayAbortEval" DurationSpec.reader))]

/-- The threshold as JSON. -/
def json : ThresholdSpec → Json
  | expression text => .string text
  | detailed text abortOnFail delay =>
    .object [("threshold", .string text), ("abortOnFail", .bool abortOnFail),
      ("delayAbortEval", .ofOption DurationSpec.json delay)]

end ThresholdSpec

namespace SleepSpec

/-- Reads a pause. -/
def reader : Reader SleepSpec :=
  .firstOf [fun room value => (DurationSpec.reader room value).map fixed,
    .object ["min", "max"] .skipped fun record => do
      some (range (← record.need "min" DurationSpec.reader)
        (← record.need "max" DurationSpec.reader))]

/-- The pause as JSON. -/
def json : SleepSpec → Json
  | fixed span => span.json
  | range least most => .object [("min", least.json), ("max", most.json)]

end SleepSpec

namespace CheckSpec

/-- Reads a check. -/
def reader : Reader CheckSpec :=
  .record ["name", "status", "statusIn", "bodyContains", "maxDuration"] .refused fun record => do
    some {
      name := ← record.need "name" .string
      status := ← record.maybe "status" (.nat 65535)
      statusIn := ← record.maybe "statusIn" (.list (.nat 65535))
      bodyContains := ← record.maybe "bodyContains" .string
      maxDuration := ← record.maybe "maxDuration" DurationSpec.reader }

/-- The check as JSON. -/
def json (check : CheckSpec) : Json :=
  .object [("name", .string check.name), ("status", .ofOption .ofNat check.status),
    ("statusIn", .ofOption (.ofList .ofNat) check.statusIn),
    ("bodyContains", .ofOption .string check.bodyContains),
    ("maxDuration", .ofOption DurationSpec.json check.maxDuration)]

end CheckSpec

namespace CaptureSpec

/-- Reads a capture. -/
def reader : Reader CaptureSpec :=
  .record ["var", "pointer", "random"] .refused fun record => do
    some ⟨← record.need "var" .string, ← record.withDefault "pointer" .string "",
      ← record.withDefault "random" .bool false⟩

/-- The capture as JSON. -/
def json (capture : CaptureSpec) : Json :=
  .object [("var", .string capture.var), ("pointer", .string capture.pointer),
    ("random", .bool capture.random)]

end CaptureSpec

namespace RequestStep

/-- The fields of a step in their order. -/
def fields : List String :=
  ["method", "url", "name", "headers", "json", "body", "checks", "capture"]

/-- Reads a step; a step without a method gets. -/
def reader : Reader RequestStep :=
  .record fields .refused fun record => do
    some {
      method := ← record.withDefault "method" .string "GET"
      url := ← record.need "url" .string
      name := ← record.maybe "name" .string
      headers := ← record.withDefault "headers" (.table .string) .empty
      json := ← record.maybe "json" .json
      body := ← record.maybe "body" .string
      checks := ← record.withDefault "checks" (.list CheckSpec.reader) []
      captures := ← record.withDefault "capture" (.list CaptureSpec.reader) [] }

/-- The step as JSON. -/
def toJson (step : RequestStep) : Json :=
  .object [("method", .string step.method), ("url", .string step.url),
    ("name", .ofOption .string step.name), ("headers", .ofTable .string step.headers),
    ("json", step.json.getD .null), ("body", .ofOption .string step.body),
    ("checks", .ofList CheckSpec.json step.checks),
    ("capture", .ofList CaptureSpec.json step.captures)]

end RequestStep

namespace PlanFile

/-- The fields of a plan file in their order. -/
def fields : List String :=
  ["name", "stages", "startVUs", "thresholds", "baseUrl", "headers", "sleep", "maxVUs", "tick",
    "gracefulStop", "timeout", "thresholdInterval", "tags", "requests"]

/-- Reads a plan file. -/
def reader : Reader PlanFile :=
  .record fields .refused fun record => do
    some {
      name := ← record.maybe "name" .string
      stages := ← record.withDefault "stages" (.list StageSpec.reader) []
      startUsers := ← record.maybe "startVUs" (.nat maxWord)
      thresholds := ← record.withDefault "thresholds" (.table (.list ThresholdSpec.reader)) .empty
      baseUrl := ← record.maybe "baseUrl" .string
      headers := ← record.withDefault "headers" (.table .string) .empty
      sleep := ← record.maybe "sleep" SleepSpec.reader
      maxUsers := ← record.maybe "maxVUs" (.nat maxWord)
      tick := ← record.maybe "tick" DurationSpec.reader
      gracefulStop := ← record.maybe "gracefulStop" DurationSpec.reader
      timeout := ← record.maybe "timeout" DurationSpec.reader
      thresholdInterval := ← record.maybe "thresholdInterval" DurationSpec.reader
      tags := ← record.withDefault "tags" (.table .string) .empty
      requests := ← record.withDefault "requests" (.list RequestStep.reader) [] }

/-- **The plan file of a text.** -/
def parse? (text : String) : Option PlanFile := Json.read? reader text

/-- **The plan file as JSON.** -/
def json (file : PlanFile) : Json :=
  .object [("name", .ofOption .string file.name), ("stages", .ofList StageSpec.json file.stages),
    ("startVUs", .ofOption .ofNat file.startUsers),
    ("thresholds", .ofTable (.ofList ThresholdSpec.json) file.thresholds),
    ("baseUrl", .ofOption .string file.baseUrl), ("headers", .ofTable .string file.headers),
    ("sleep", .ofOption SleepSpec.json file.sleep), ("maxVUs", .ofOption .ofNat file.maxUsers),
    ("tick", .ofOption DurationSpec.json file.tick),
    ("gracefulStop", .ofOption DurationSpec.json file.gracefulStop),
    ("timeout", .ofOption DurationSpec.json file.timeout),
    ("thresholdInterval", .ofOption DurationSpec.json file.thresholdInterval),
    ("tags", .ofTable .string file.tags), ("requests", .ofList RequestStep.toJson file.requests)]

end PlanFile

end LoadTest
