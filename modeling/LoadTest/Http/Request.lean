/-
**Requests.**

A request is built from defaults of the plan: its URL may be relative to the plan's, and its own
headers win over the plan's. Nothing is sent if the URL or a header is not usable.

* `Request`: a request that is being built;
* `Client.prepare`: what is sent, or why nothing is.
-/

import LoadTest.Http.Headers
import LoadTest.Json.Reader
import LoadTest.Json.Writer
import LoadTest.Plan.Basic
import LoadTest.Text.Utf8
import LoadTest.Url.Reference

namespace LoadTest

open Text

/-- A request that is being built. -/
structure Request where
  method : String
  url : String
  /-- What the request is called in metrics; its URL if nothing else. -/
  name : Option String
  headers : List (String × String)
  body : Option (List UInt8)
  /-- The type of the body, unless a header tells another. -/
  contentType : Option String
deriving DecidableEq

namespace Request

/-- A request without anything but its method and URL. -/
def of (method url : String) : Request := ⟨method, url, none, [], none, none⟩

/-- The request with one more header. -/
def header (request : Request) (name value : String) : Request :=
  { request with headers := request.headers ++ [(name, value)] }

/-- The request with a token. -/
def bearer (request : Request) (token : String) : Request :=
  request.header "authorization" ("Bearer " ++ token)

/-- The request with JSON as its body. -/
def withJson (request : Request) (value : Json) : Request :=
  { request with
    body := some (Utf8.encode value.compact), contentType := some "application/json" }

/-- The request with some bytes as its body; the type of the body stays as it is. -/
def withBytes (request : Request) (bytes : List UInt8) : Request :=
  { request with body := some bytes }

/-- The request with a text as its body. -/
def withText (request : Request) (text : String) : Request :=
  request.withBytes (Utf8.encode text)

/-- The request under a name. -/
def named (request : Request) (name : String) : Request := { request with name := some name }

/-- What the request is called in metrics. -/
def label (request : Request) : String := request.name.getD request.url

/-- What the request is called in reports of failures. -/
def step (request : Request) : String := request.method ++ " " ++ request.label

/-- How many bytes the body has, counted in 64 bits. -/
def bodySize (request : Request) : Nat := min ((request.body.map List.length).getD 0) Decimal.maxWord

end Request

/-- Why a request cannot be sent. -/
inductive RequestFault where
  | relative (text : String)
  | url (text : String) (fault : UrlFault)
  | header (name : String) (fault : HeaderFault)
deriving DecidableEq

/-- The wording of the fault. -/
def RequestFault.message : RequestFault → String
  | .relative text => text ++ " is relative but the plan has no base URL"
  | .url text fault => text ++ ": " ++ fault.message
  | .header name fault => "header " ++ name ++ ": " ++ fault.message

/-- What is sent to a server. -/
structure Outgoing where
  method : String
  url : Url
  headers : Headers
  body : Option (List UInt8)

/-- What all requests of a plan start from. -/
structure Client where
  baseUrl : Option Url
  headers : Headers

namespace Client

/-- The client of a plan. -/
def ofPlan (plan : Plan) : Except PlanFault Client :=
  match Headers.setAll .empty plan.headers with
  | .ok headers => .ok ⟨plan.baseUrl, headers⟩
  | .error (name, fault) => .error (.header name fault)

/-- The URL that a request means. -/
def resolve (client : Client) (url : String) : Except RequestFault Url :=
  match Url.parse url with
  | .ok parsed => .ok parsed
  | .error .withoutBase =>
    match client.baseUrl with
    | none => .error (.relative url)
    | some base => (base.join url).mapError (.url url)
  | .error fault => .error (.url url fault)

/-- The headers of a request: its own, then those of the plan, then the type of its body. -/
def headersOf (client : Client) (request : Request) : Except RequestFault Headers :=
  match client.headers.setAll request.headers with
  | .error (name, fault) => .error (.header name fault)
  | .ok headers =>
    match request.contentType with
    | none => .ok headers
    | some contentType => .ok (Headers.setDefault headers "content-type" contentType)

/-- **What is sent for a request**, or why nothing is. -/
def prepare (client : Client) (request : Request) : Except RequestFault Outgoing := do
  let url ← client.resolve request.url
  let headers ← client.headersOf request
  return ⟨request.method, url, headers, request.body⟩

end Client

end LoadTest
