/-
**The ticketing gateway.**

A path that the gateway does not know comes first, then a missing token, then a method that the
route does not know, and then what is wrong with the request itself. Reservations are numbered from
zero on; what is refused has no number.

* `Gateway.serve`: the answer to a request, and the gateway after it.
-/

import LoadTest.Decimal.Layout
import LoadTest.Gateway.Reservation
import LoadTest.Gateway.Route
import LoadTest.Http.MediaType
import LoadTest.Url.Percent

namespace LoadTest

open Decimal Text

namespace Gateway

/-- A request to the gateway. -/
structure Call where
  method : String
  path : String
  headers : List (String × String)
  body : String

/-- How long an answer takes. -/
inductive Wait where
  | none
  | millis (span : Nat)
  /-- normally distributed around a number of milliseconds, with a tenth of it as deviation -/
  | around (mean : Float)

/-- What the gateway answers. -/
structure Answer where
  status : Nat
  body : String := ""
  wait : Wait := .none

/-- What a request to a guarded route without the token is told. -/
def refusalText : String := "missing or invalid bearer token"

/-- The value of the first header of a name, if it is plain ASCII. -/
def Call.header? (call : Call) (name : String) : Option (List Char) :=
  match call.headers.find? fun header => Header.folded header.1 = name with
  | none => none
  | some (_, value) =>
    if value.toList.all fun c => c = '\t' || (0x20 ≤ c.toNat && c.toNat < 0x7F) then
      some value.toList
    else none

/-- Whether a request carries a token. -/
def Call.hasToken (call : Call) (token : String) : Bool :=
  ((call.header? "authorization").bind (dropLead? "Bearer ".toList)).any fun given =>
    given = token.toList

/-- Whether a request says that its body is JSON. -/
def Call.isJson (call : Call) : Bool :=
  ((call.header? "content-type").bind MediaType.parse?).any MediaType.isJson

/-- JSON as an answer. -/
def shown (value : Json) : Answer := ⟨200, value.compact, .none⟩

/-- Something as an answer, if it is there. -/
def found {β : Type} (json : β → Json) : Option β → Answer
  | some value => shown (json value)
  | none => ⟨404, "", .none⟩

/-- The answer of a route to the last part of its path, which must have a meaning. -/
def answerTo {β : Type} (answer : β → Answer) : Option β → Answer
  | some value => answer value
  | none => ⟨400, "", .none⟩

/-- A part of a path as it is meant. -/
def meant (part : List Char) : Option String := Percent.text? (Percent.decode part)

/-- A whole number in a path. -/
def whole? (limit : Nat) (part : List Char) : Option Nat :=
  (meant part).bind fun text => (readWord limit text.toList).toOption

/-- The answer of a route that fails so many times out of a million; `roll` is drawn below that. -/
def flakyAnswer (roll rate : Nat) : Answer := ⟨if roll < rate then 500 else 200, "", .none⟩

/-- The answer of a route that waits about so many milliseconds. -/
def latencyAnswer (mean : Float) : Answer :=
  if (mean * 0.1).isFinite then ⟨200, "", .around mean⟩ else ⟨400, "", .none⟩

/-- The answer of a route that changes nothing. -/
def look (roll : Nat) : Route → Answer
  | .events => shown (.ofList Event.json Event.all)
  | .locations => shown (.ofList Location.json Location.all)
  | .event id => answerTo (fun id => found Event.json (Event.find? id)) (meant id)
  | .location id => answerTo (fun id => found Location.json (Location.find? id)) (meant id)
  | .flaky rate => answerTo (flakyAnswer roll) (whole? 0xFFFFFFFF rate)
  | .delay millis => answerTo (fun millis => ⟨200, "", .millis millis⟩) (whole? maxWord millis)
  | .latency mean =>
    answerTo latencyAnswer ((meant mean).bind fun text => readFloat? text.toList)
  | .reservations => ⟨405, "", .none⟩

/-- The number of a reservation: eight digits or more. -/
def reservationNumber (place : Nat) : String :=
  let digits := Nat.toDigits 10 place
  "rsv-" ++ String.ofList (List.replicate (8 - digits.length) '0' ++ digits)

end Gateway

/-- A gateway with its token, and how many reservations it took. -/
structure Gateway where
  token : String
  reserved : Nat := 0

namespace Gateway

/-- The answer to a reservation, and the gateway after it. -/
def reserve (gateway : Gateway) (call : Call) : Answer × Gateway :=
  if !call.isJson then (⟨415, "", .none⟩, gateway)
  else
    match Json.Stream.read Reservation.stream call.body with
    | .error .malformed => (⟨400, "", .none⟩, gateway)
    | .error .misfit => (⟨422, "", .none⟩, gateway)
    | .ok reservation =>
      if reservation.isAcceptable then
        (shown (.object [("id", .string (reservationNumber gateway.reserved))]),
          { gateway with reserved := gateway.reserved + 1 })
      else (⟨400, "", .none⟩, gateway)

/-- The answer without its body, if only that is asked for. -/
def withoutBody (call : Call) (route : Route) (answer : Answer) : Answer :=
  if call.method = "HEAD" && route.accepts "HEAD" then { answer with body := "" } else answer

/-- **The answer to a request, and the gateway after it**; `roll` is a number below a million that
decides whether a flaky route fails. -/
def serve (gateway : Gateway) (roll : Nat) (call : Call) : Answer × Gateway :=
  match Route.of? call.path with
  | none => (⟨404, "", .none⟩, gateway)
  | some route =>
    if route.isGuarded && !call.hasToken gateway.token then
      (withoutBody call route ⟨401, refusalText, .none⟩, gateway)
    else if !route.accepts call.method then (⟨405, "", .none⟩, gateway)
    else
      match route with
      | .reservations => gateway.reserve call
      | _ => (withoutBody call route (look roll route), gateway)

/-- The answers to requests in their order. -/
def serveAll (rolls : Nat → Nat) : List Call → Gateway → List Answer
  | [], _ => []
  | call :: rest, gateway =>
    let (answer, gateway) := gateway.serve (rolls 0) call
    answer :: serveAll (fun place => rolls (place + 1)) rest gateway

end Gateway

end LoadTest
