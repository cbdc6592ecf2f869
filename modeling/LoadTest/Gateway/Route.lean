/-
**The routes of the ticketing gateway.**

Under `/v1` stand the events, the locations and the reservations; details of events and locations
are there without it too. Three more routes fail or wait as they are told. Only what belongs to the
shop asks for a token.

* `Route.of?`: the route of a target, which is a path or a whole address;
* `Route.isGuarded`: whether a token is asked for;
* `Route.accepts`: the methods of a route.
-/

import LoadTest.Text.Cut

namespace LoadTest.Gateway

open Text

/-- Where a request goes to; the last part of its path is kept as it is written. -/
inductive Route where
  | events
  | event (id : List Char)
  | locations
  | location (id : List Char)
  | reservations
  /-- fails so many times out of a million -/
  | flaky (rate : List Char)
  /-- waits so many milliseconds -/
  | delay (millis : List Char)
  /-- waits about so many milliseconds -/
  | latency (mean : List Char)
deriving DecidableEq

namespace Route

/-- A text up to its query or its fragment. -/
def bare (text : List Char) : List Char := text.takeWhile fun c => c ≠ '?' && c ≠ '#'

/-- What stands behind the scheme of a target, if it has one. -/
def behindScheme? (target : List Char) : Option (List Char) :=
  let isSchemeChar (c : Char) : Bool := c.isAlphanum || c = '+' || c = '-' || c = '.'
  dropLead? [':', '/', '/'] (target.dropWhile isSchemeChar)

/-- **The path of a target**, which begins with a slash unless a scheme and a host come before. -/
def pathOf (target : List Char) : List Char :=
  match behindScheme? target with
  | some rest => if (authority rest).isEmpty then [] else (bare rest).dropWhile (· ≠ '/')
  | none => bare target
where
  /-- The host, with a user and a port if there are any. -/
  authority (rest : List Char) : List Char := (bare rest).takeWhile (· ≠ '/')

/-- The route of the parts between the slashes. -/
def ofParts? : List String → Option Route
  | ["v1", "events"] => some events
  | ["v1", "events", id] | ["events", id] => named event id
  | ["v1", "locations"] => some locations
  | ["v1", "locations", id] | ["locations", id] => named location id
  | ["v1", "reservations"] => some reservations
  | ["flaky", rate] => named flaky rate
  | ["delay", "ms", millis] => named delay millis
  | ["latency", "ms", mean] => named latency mean
  | _ => none
where
  named (route : List Char → Route) (part : String) : Option Route :=
    if part.isEmpty then none else some (route part.toList)

/-- **The route of a target.** -/
def of? (target : String) : Option Route :=
  match pathOf target.toList with
  | '/' :: rest => ofParts? ((rest.splitOn '/').map String.ofList)
  | _ => none

/-- **Whether a route asks for a token.** -/
def isGuarded : Route → Bool
  | flaky _ | delay _ | latency _ => false
  | _ => true

/-- **Whether a route knows a method.** What can be read can be asked for without its body. -/
def accepts : Route → String → Bool
  | reservations, method => method = "POST"
  | _, method => method = "GET" || method = "HEAD"

end Route

end LoadTest.Gateway
