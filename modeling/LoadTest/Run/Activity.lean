/-
**What a user does in an iteration.**

An activity goes on by itself while it names its step, records samples and writes notes; it waits
where it sends a request or sleeps. It ends well or with a fault. What comes in from outside (the
reply to a request, whether a sample was taken) decides how it goes on, so an activity is all that
an iteration could do.

* `Activity`: an iteration from some point on;
* `Activity.proceed`: what happens up to the next point where it waits;
* `Activity.signals`: what has to come in for the iteration to end, if a server answers it.
-/

import LoadTest.Http.Response
import LoadTest.Recorder.Basic

namespace LoadTest

/-- Why an iteration failed. -/
inductive IterationFault where
  /-- the connection was lost -/
  | transport (step : String)
  | status (step : String) (status : Nat)
  /-- the body of a response is not what was asked for -/
  | body (step : String)
  | request (fault : RequestFault)
  | record (fault : RecordFault)
  | panicked (message : String)
  | custom (message : String)
deriving DecidableEq

/-- The wording of the fault. -/
def IterationFault.message : IterationFault → String
  | transport step => step ++ ": transport error"
  | status step code => step ++ ": unexpected status " ++ Decimal.showNat code
  | body step => step ++ ": invalid response body"
  | request fault => "Invalid request: " ++ fault.message
  | record fault => "Metric error: " ++ fault.message
  | panicked message => "Iteration panicked: " ++ message
  | custom message => message

namespace Response

/-- The response, unless its status is one of an error. -/
def orFault (response : Response) : Except IterationFault Response :=
  if 400 ≤ response.status then .error (.status response.step response.status) else .ok response

/-- The JSON of the body. -/
def json (response : Response) : Except IterationFault Json :=
  match response.json? with
  | some value => .ok value
  | none => .error (.body response.step)

end Response

/-- What a user does in an iteration from some point on. -/
inductive Activity where
  /-- The iteration is over. -/
  | finish (fault : Option IterationFault)
  /-- Names the step that the user is in. -/
  | step (name : String) (next : Activity)
  /-- Records a sample. -/
  | emit (sample : Sample Float) (next : Option RecordFault → Activity)
  /-- Writes something down. -/
  | note (text : String) (next : Activity)
  /-- Sends a request and waits for what becomes of it. -/
  | send (request : Outgoing) (next : Reply → Activity)
  /-- Waits for some time. -/
  | sleep (span : Duration) (next : Activity)

/-- What a waiting user is told. -/
inductive Signal where
  /-- time has passed -/
  | wake
  /-- a request was answered or lost -/
  | reply (reply : Reply)

/-- What an iteration changes besides itself. -/
structure Scene where
  recorder : Recorder Float
  /-- The step that the user is in. -/
  step : Option String
  /-- What was written down, the latest first. -/
  notes : List String

namespace Scene

/-- A sample recorded at some time, with the tags of the plan where it has none of its own. -/
def record (scene : Scene) (tags : Tags) (clock : Duration) (sample : Sample Float) :
    Scene × Option RecordFault :=
  let (recorder, fault) :=
    scene.recorder.record ({ sample with offset := clock }.withTags tags)
  ({ scene with recorder }, fault)

end Scene

namespace Activity

/-- **What happens up to the next point where the activity waits or ends**, and how it goes on from
there. -/
def proceed (tags : Tags) (clock : Duration) : Activity → Scene → Activity × Scene
  | finish fault, scene => (finish fault, scene)
  | step name next, scene => next.proceed tags clock { scene with step := some name }
  | emit sample next, scene =>
    let (scene, fault) := scene.record tags clock sample
    (next fault).proceed tags clock scene
  | note text next, scene => next.proceed tags clock { scene with notes := text :: scene.notes }
  | send request next, scene => (send request next, scene)
  | sleep span next, scene => (sleep span next, scene)

/-- How a waiting activity goes on after a signal; one that it does not wait for changes nothing. -/
def receive : Activity → Signal → Option Activity
  | send _ next, .reply reply => some (next reply)
  | sleep _ next, .wake => some next
  | _, _ => none

/-- **The signals up to the end of the activity**, if a server answers its requests. The server
looks at all requests up to the one that it answers, the latest first. -/
def signals (server : List Outgoing → Reply) (tags : Tags) (clock : Duration) :
    Activity → Scene → List Outgoing → List Signal
  | finish _, _, _ => []
  | step name next, scene, sent => next.signals server tags clock { scene with step := some name } sent
  | emit sample next, scene, sent =>
    let (scene, fault) := scene.record tags clock sample
    (next fault).signals server tags clock scene sent
  | note _ next, scene, sent => next.signals server tags clock scene sent
  | send request next, scene, sent =>
    let reply := server (request :: sent)
    .reply reply :: (next reply).signals server tags clock scene (request :: sent)
  | sleep _ next, scene, sent => .wake :: next.signals server tags clock scene sent

/-- Records samples up to the first that is refused. -/
def emitAll (samples : List (Sample Float)) (next : Option RecordFault → Activity) : Activity :=
  match samples with
  | [] => next none
  | sample :: rest =>
    emit sample fun
      | some fault => next (some fault)
      | none => emitAll rest next

/-- Records the outcome of a check; a sample that is refused does not matter. -/
def check (name : String) (passed : Bool) (next : Activity) : Activity :=
  emit ((Sample.rate BuiltIn.checks passed).tag "check" name) fun _ => next

/-- What is known of a request when its reply is recorded. -/
def outcomeOf (request : Request) (reply : Reply) : Option RecordFault →
    Except IterationFault Response
  | some fault => .error (.record fault)
  | none =>
    match reply with
    | .response status headers body took => .ok ⟨request.step, status, headers, body, took⟩
    | .lost _ => .error (.transport request.step)

/-- **Sends a request**, unless it is unusable, and records what becomes of it. -/
def ask (client : Client) (request : Request)
    (next : Except IterationFault Response → Activity) : Activity :=
  step request.step <|
    match client.prepare request with
    | .error fault => next (.error (.request fault))
    | .ok outgoing =>
      send outgoing fun reply =>
        emitAll (request.samples reply) fun fault => next (outcomeOf request reply fault)

end Activity

end LoadTest
