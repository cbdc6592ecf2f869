/-
**Responses.**

A request is answered, or the connection is lost. Either way five samples tell about it: that there
was a request, how long it took, whether it failed, and how many bytes went each way. A lost
connection has the status 0.

* `Reply`: what becomes of a request;
* `Request.samples`: what a reply is recorded as.
-/

import LoadTest.Http.Request
import LoadTest.Metric.Sample

namespace LoadTest

open Text Decimal

/-- What becomes of a request that was sent. -/
inductive Reply where
  | response (status : Nat) (headers : List (String × String)) (body : List UInt8)
      (took : Duration)
  | lost (took : Duration)

namespace Reply

/-- The status, or 0. -/
def status : Reply → Nat
  | response status .. => status
  | lost _ => 0

/-- How long it took until the whole body was there, or the connection was lost. -/
def took : Reply → Duration
  | response _ _ _ took => took
  | lost took => took

/-- How many bytes came in, counted in 64 bits. -/
def received : Reply → Nat
  | response _ _ body _ => min body.length maxWord
  | lost _ => 0

/-- Whether the request counts as failed. -/
def hasFailed : Reply → Bool
  | response status .. => !isExpectedStatus status
  | lost _ => true

end Reply

/-- A number of milliseconds. -/
def Duration.toMillis (d : Duration) : Float := d.toScalar * 1000

namespace Request

/-- A sample about a request and its reply. -/
def tagged (request : Request) (reply : Reply) (sample : Sample Float) : Sample Float :=
  ((sample.tag "method" request.method).tag "name" request.label).tag "status"
    (showNat reply.status)

/-- **What a reply is recorded as.** -/
def samples (request : Request) (reply : Reply) : List (Sample Float) :=
  [Sample.counter BuiltIn.requests 1,
    Sample.trend BuiltIn.requestDuration reply.took.toMillis,
    Sample.rate BuiltIn.requestFailed reply.hasFailed,
    Sample.counter BuiltIn.dataSent (Float.ofNat request.bodySize),
    Sample.counter BuiltIn.dataReceived (Float.ofNat reply.received)].map (request.tagged reply)

end Request

/-- The answer to a request. -/
structure Response where
  /-- What the request is called. -/
  step : String
  status : Nat
  headers : List (String × String)
  body : List UInt8
  took : Duration

namespace Response

/-- Whether the status is one of success. -/
def isSuccess (response : Response) : Bool := 200 ≤ response.status && response.status < 300

/-- The body as a text. -/
def text (response : Response) : String := Utf8.decodeLossy response.body

/-- The body as JSON, if it is. -/
def json? (response : Response) : Option Json := (Utf8.decode? response.body).bind Json.parse?

end Response

end LoadTest
