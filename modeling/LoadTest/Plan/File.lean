/-
**Plan files.**

A plan file is the plan as people write it down, in JSON: durations as numbers of seconds or as
texts, thresholds by metric, and the requests of an iteration.

* `DurationSpec`, `ThresholdSpec`, `SleepSpec`: what may be written in more than one way;
* `RequestStep`: a request with its checks and captures;
* `PlanFile`: the whole file.
-/

import LoadTest.Duration.Text
import LoadTest.Json.Basic
import LoadTest.Metric.Selector

namespace LoadTest

/-- A duration in a plan file. -/
inductive DurationSpec where
  | seconds (value : Float)
  | text (value : String)

namespace DurationSpec

/-- **The duration that is meant.** -/
def toDuration : DurationSpec → Except InvalidDuration Duration
  | seconds value => Duration.ofNumber value
  | text value => Duration.parse value

/-- A duration in units. -/
def ofDuration (d : Duration) : DurationSpec := text (Units.format d)

/-- Equality, numbers being compared as such. -/
def beq : DurationSpec → DurationSpec → Bool
  | seconds x, seconds y => x == y
  | text s, text t => s == t
  | _, _ => false

instance : BEq DurationSpec := ⟨beq⟩

end DurationSpec

/-- A stage in a plan file. -/
structure StageSpec where
  duration : DurationSpec
  target : Nat
deriving BEq

/-- A threshold in a plan file: its expression alone or with more about it. -/
inductive ThresholdSpec where
  | expression (text : String)
  | detailed (text : String) (abortOnFail : Bool) (delay : Option DurationSpec)
deriving BEq

/-- A pause in a plan file: a duration or a range. -/
inductive SleepSpec where
  | fixed (span : DurationSpec)
  | range (least most : DurationSpec)
deriving BEq

/-- What a response must be like; every condition that is there counts. -/
structure CheckSpec where
  name : String
  status : Option Nat
  statusIn : Option (List Nat)
  bodyContains : Option String
  maxDuration : Option DurationSpec
deriving BEq

/-- A value of a response that later steps may use. -/
structure CaptureSpec where
  var : String
  pointer : String
  random : Bool
deriving BEq

/-- A request of an iteration. -/
structure RequestStep where
  method : String
  url : String
  name : Option String
  headers : Table String
  json : Option Json
  body : Option String
  checks : List CheckSpec
  captures : List CaptureSpec
deriving BEq

/-- A plan as it is written down. -/
structure PlanFile where
  name : Option String
  stages : List StageSpec
  startUsers : Option Nat
  thresholds : Table (List ThresholdSpec)
  baseUrl : Option String
  headers : Table String
  sleep : Option SleepSpec
  maxUsers : Option Nat
  tick : Option DurationSpec
  gracefulStop : Option DurationSpec
  timeout : Option DurationSpec
  thresholdInterval : Option DurationSpec
  tags : Tags
  requests : List RequestStep
deriving BEq

end LoadTest
