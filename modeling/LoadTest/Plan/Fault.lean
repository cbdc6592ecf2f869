/-
**What can be wrong with a plan.**

* `PlanFault.message`: the wording of every fault.
-/

import LoadTest.Duration.Text
import LoadTest.Threshold.Basic
import LoadTest.Url.Basic
import LoadTest.Header
import LoadTest.Plan.Environment

namespace LoadTest

open Text Decimal

/-- The longest duration that a plan may use: ten years of 365 days. -/
def longestSupported : Duration := .ofWholeSeconds (10 * 365 * 24 * 60 * 60)

/-- What is wrong with a step of a plan. -/
inductive StepFault where
  | twoBodies
  | noRequests
deriving DecidableEq

/-- The wording of the fault. -/
def StepFault.message : StepFault → String
  | .twoBodies => "`json` and `body` are mutually exclusive"
  | .noRequests => "the plan has no requests to run"

/-- What is wrong with a plan. -/
inductive PlanFault where
  | unreadable (path reason : String)
  /-- `detail` says where the text stops being a plan -/
  | notJson (detail : String)
  | duration (fault : InvalidDuration)
  | threshold (fault : ThresholdFault)
  | userCap (stage target cap : Nat)
  | noUsersAllowed
  | baseUrl (text : String) (fault : UrlFault)
  | missingVariable (fault : MissingVariable)
  | invertedSleep (least most : Duration)
  | header (name : String) (fault : HeaderFault)
  | method (text : String)
  | step (place : Nat) (fault : StepFault)
  | zeroTick
  | tooLong (what : String) (value : Duration)
deriving DecidableEq

/-- There is no file under the path. -/
def PlanFault.noFile (path : String) : PlanFault :=
  .unreadable path "No such file or directory (os error 2)"

/-- The wording of the fault. -/
def PlanFault.message : PlanFault → String
  | .unreadable path reason => "Unable to read plan file " ++ path ++ ": " ++ reason
  | .notJson detail => "Plan file is not valid JSON: " ++ detail
  | .duration fault => fault.message
  | .threshold (.selector text) => "Invalid metric selector " ++ quote text
  | .threshold (.expression metric text fault) =>
    "Invalid threshold expression " ++ quote text ++ " on " ++ metric ++ ": " ++ fault.message
  | .userCap stage target cap =>
    "Stage " ++ showNat stage ++ " targets " ++ showNat target ++
      " VUs which exceeds the VU cap of " ++ showNat cap
  | .noUsersAllowed => "maxVUs must be greater than zero"
  | .baseUrl text fault => "Invalid base URL " ++ quote text ++ ": " ++ fault.message
  | .missingVariable fault =>
    "Environment variable " ++ fault.name ++ " referenced by the plan is not set"
  | .invertedSleep least most =>
    "Sleep range is inverted: min " ++ least.show ++ " > max " ++ most.show
  | .header name fault => "Invalid header " ++ quote name ++ ": " ++ fault.message
  | .method text => "Unsupported HTTP method " ++ quote text
  | .step place fault => "Invalid request step " ++ showNat place ++ ": " ++ fault.message
  | .zeroTick => "Tick interval must be greater than zero"
  | .tooLong what value =>
    what ++ " of " ++ value.show ++ " exceeds the longest supported duration of " ++
      longestSupported.show

end LoadTest
