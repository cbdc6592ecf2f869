/-
**What a run may be told on the command line.**

Options replace what the plan file says before it is resolved: the cap, all stages, the base URL,
and whether there are thresholds at all. A stage is written `DURATION:TARGET`.

* `Stage.parse`: the stage of a text, or what is wrong with it;
* `RunOptions.apply`: the plan file with its replacements.
-/

import LoadTest.Duration.Text
import LoadTest.Plan.File
import LoadTest.Schedule
import LoadTest.Text.Quoted

namespace LoadTest

open Decimal Text

/-- What is wrong with the text of a stage. -/
inductive StageFault where
  /-- there is no colon -/
  | shape (text : String)
  | target (text : String)
  | duration (fault : InvalidDuration)
deriving DecidableEq

/-- The wording of the fault. -/
def StageFault.message : StageFault → String
  | shape text => "expected DURATION:TARGET, got " ++ quote text
  | target text => "invalid VU target " ++ quote text
  | duration fault => fault.message

/-- **The stage of a text**, cut at its last colon. The target is read first; blanks around it do
not count. -/
def Stage.parse (text : String) : Except StageFault Stage :=
  match splitLast ':' text.toList with
  | none => .error (.shape text)
  | some (span, target) =>
    match readWord maxWord (trim target) with
    | .error _ => .error (.target (String.ofList target))
    | .ok users =>
      match Duration.parse (String.ofList span) with
      | .error fault => .error (.duration fault)
      | .ok duration => .ok ⟨duration, users⟩

/-- How the summary of a run is printed. -/
inductive SummaryFormat where
  | text
  | json
deriving DecidableEq

/-- The word of a format. -/
def SummaryFormat.word : SummaryFormat → String
  | text => "text"
  | json => "json"

/-- The format of a word. -/
def SummaryFormat.ofWord? (word : String) : Option SummaryFormat :=
  [text, json].find? fun format => format.word = word

/-- How a plan file is to be run. -/
structure RunOptions where
  /-- The path of the plan file. -/
  plan : String
  maxUsers : Option Nat
  /-- The run stops after this time even if stages remain. -/
  duration : Option Duration
  /-- Stages instead of those of the plan, if there are any. -/
  stages : List Stage
  format : SummaryFormat
  /-- Where the summary is written to. -/
  summaryExport : Option String
  noThresholds : Bool
  baseUrl : Option String
deriving DecidableEq

/-- The stage as it is written down. -/
def Stage.spec (stage : Stage) : StageSpec := ⟨.ofDuration stage.duration, stage.target⟩

/-- **The plan file with the replacements of the options.** -/
def RunOptions.apply (options : RunOptions) (file : PlanFile) : PlanFile :=
  { file with
    maxUsers := options.maxUsers.or file.maxUsers
    stages := if options.stages.isEmpty then file.stages else options.stages.map Stage.spec
    baseUrl := options.baseUrl.or file.baseUrl
    thresholds := if options.noThresholds then .empty else file.thresholds }

end LoadTest
