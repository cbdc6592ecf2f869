/-
**Scripts.**

A script is what the requests of a plan file come to: steps whose texts may hold variables
`{{name}}`, with checks on the response and captures from it.

* `Script.ofSteps`: the script of some requests, or the first fault;
* `ScriptStep.prepare`: a step with its variables filled in, if all are known;
* `ResponseCheck.holds`: whether a response is as a check asks;
* `CaptureSpec.value?`: the value that a capture takes from a response.
-/

import LoadTest.Http.Response
import LoadTest.Plan.Resolve
import LoadTest.Text.Blank
import LoadTest.Text.Placeholder

namespace LoadTest

open Text

/-- What a response must be like; every condition that is there counts. -/
structure ResponseCheck where
  name : String
  status : Option Nat
  statusIn : Option (List Nat)
  bodyContains : Option String
  maxDuration : Option Duration
deriving DecidableEq

namespace ResponseCheck

/-- The check that a plan file describes. -/
def ofSpec (spec : CheckSpec) : Except PlanFault ResponseCheck := do
  return ⟨spec.name, spec.status, spec.statusIn, spec.bodyContains,
    ← resolveOption DurationSpec.resolve spec.maxDuration⟩

/-- **Whether a response is as the check asks.** -/
def holds (check : ResponseCheck) (response : Response) : Bool :=
  check.status.all (fun status => response.status = status) &&
  check.statusIn.all (fun set => set.contains response.status) &&
  check.bodyContains.all (fun part => hasPart part.toList response.text.toList) &&
  check.maxDuration.all fun longest => response.took ≤ longest

end ResponseCheck

/-- The body of a step. -/
inductive StepBody where
  | json (value : Json)
  | text (value : String)

/-- A step of a script. -/
structure ScriptStep where
  method : String
  url : String
  /-- What the step is called in metrics: its name, or its URL before variables are filled in. -/
  name : String
  headers : List (String × String)
  body : Option StepBody
  checks : List ResponseCheck
  captures : List CaptureSpec

/-- What users do in every iteration. -/
structure Script where
  steps : List ScriptStep

/-- Characters of methods. -/
def isMethodChar (c : Char) : Bool :=
  c.isAlphanum || ['!', '*', '+', '-', '.', '^', '_', '\x60', '|', '~'].contains c

/-- Whether a request can have a text for its method. -/
def isMethod (text : String) : Bool := !text.isEmpty && text.toList.all isMethodChar

namespace ScriptStep

/-- The body that a request of a plan file has; of two bodies the JSON counts. -/
def bodyOf (step : RequestStep) : Option StepBody :=
  (step.json.map StepBody.json).or (step.body.map StepBody.text)

/-- **The step that a request of a plan file describes.** -/
def ofRequest (step : RequestStep) : Except PlanFault ScriptStep := do
  let method := step.method.map Char.toUpper
  if !isMethod method then throw (.method step.method)
  let checks ← step.checks.mapM ResponseCheck.ofSpec
  return ⟨method, step.url, step.name.getD step.url, step.headers.toList, bodyOf step, checks,
    step.captures⟩

end ScriptStep

/-- The script of some requests. -/
def Script.ofSteps (steps : List RequestStep) : Except PlanFault Script :=
  (steps.mapM ScriptStep.ofRequest).map Script.mk

/-! ### Variables -/

/-- The values that were captured in an iteration. -/
abbrev Variables := Table String

/-- The marks around the name of a variable. -/
def captureMarks : Marks := ⟨['\x7b', '\x7b'], ['\x7d', '\x7d'], by simp⟩

namespace Variables

/-- The value of a variable, its name being taken without the blanks around it. -/
def find (known : Variables) (name : List Char) : Except Unit (List Char) :=
  match known.get? (String.ofList (trim name)) with
  | some value => .ok value.toList
  | none => .error ()

/-- **A text with its variables filled in**, if all of them are known. -/
def render (known : Variables) (text : String) : Option String :=
  match Placeholder.fill captureMarks known.find text.toList with
  | .ok filled => some (String.ofList filled)
  | .error () => none

mutual

/-- **JSON with the variables of its texts filled in**; keys stay as they are. -/
def renderJson (known : Variables) : Json → Option Json
  | .string text => (known.render text).map .string
  | .array items => (known.renderItems items).map .array
  | .object members => (known.renderMembers members).map .object
  | value => some value

/-- The items of an array with their variables filled in. -/
def renderItems (known : Variables) : List Json → Option (List Json)
  | [] => some []
  | item :: rest => do
    some ((← known.renderJson item) :: (← known.renderItems rest))

/-- The members of an object with their variables filled in. -/
def renderMembers (known : Variables) :
    List (String × Json) → Option (List (String × Json))
  | [] => some []
  | (key, value) :: rest => do
    some ((key, ← known.renderJson value) :: (← known.renderMembers rest))

end

/-- A header with the variables of its value filled in. -/
def renderHeader (known : Variables) (header : String × String) : Option (String × String) :=
  (known.render header.2).map fun value => (header.1, value)

/-- A body with its variables filled in. -/
def renderBody (known : Variables) : StepBody → Option StepBody
  | .json value => (known.renderJson value).map .json
  | .text value => (known.render value).map .text

end Variables

/-- The request with a body. -/
def Request.withBody (request : Request) : Option StepBody → Request
  | some (.json value) => request.withJson value
  | some (.text value) => request.withText value
  | none => request

/-- **The request of a step**, if all of its variables are known. -/
def ScriptStep.prepare (step : ScriptStep) (known : Variables) : Option Request := do
  let headers ← step.headers.mapM known.renderHeader
  let body ← match step.body with
    | none => some none
    | some body => (known.renderBody body).map some
  let url ← known.render step.url
  some (({ Request.of step.method url with headers }.named step.name).withBody body)

/-- The part of a body that a capture looks at; of an array's items one is drawn if it asks for
that. -/
def CaptureSpec.pick? (capture : CaptureSpec) (draw : Nat) (body : Json) : Option Json :=
  if capture.random then
    match body with
    | .array items => items[draw % items.length]?
    | _ => none
  else some body

/-- **The value that a capture takes from a response.** Texts are taken as they are, null is no
value, and anything else is taken as JSON. -/
def CaptureSpec.value? (capture : CaptureSpec) (draw : Nat) (response : Response) :
    Option String := do
  let body ← response.json?
  let picked ← capture.pick? draw body
  match ← picked.pointer? capture.pointer with
  | .string text => some text
  | .null => none
  | value => some value.compact

end LoadTest
