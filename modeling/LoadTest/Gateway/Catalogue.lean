/-
**What the ticketing gateway has on offer.**

The gateway stands in for a ticket shop while scripts are tried out. It offers the same three events
at two locations at every start.

* `Event.all`, `Location.all`: what there is;
* `Event.json`, `Location.json`: how it is shown.
-/

import LoadTest.Json.Writer

namespace LoadTest.Gateway

/-- An event that has tickets. -/
structure Event where
  id : String
  name : String
  location : String
  date : String
deriving DecidableEq

/-- A place where events take place. -/
structure Location where
  id : String
  name : String
  capacity : Nat
deriving DecidableEq

namespace Event

/-- All events. -/
def all : List Event :=
  [⟨"b1a9d6b7-23f4-4b95-92f1-3a5e4f57e9aa", "Summer Sonic", "loc-1", "2026-06-15T19:00:00Z"⟩,
    ⟨"0c5e2a44-7f0d-4b1e-9a53-2d8e6b1c7f10", "Jazz Night", "loc-2", "2026-07-15T19:00:00Z"⟩,
    ⟨"7d3f9b12-1c6a-4e8f-b2d4-5a9c0e3f6b21", "Indie Showcase", "loc-1", "2026-08-15T19:00:00Z"⟩]

/-- The event of a number. -/
def find? (id : String) : Option Event := all.find? fun event => event.id = id

/-- The event as JSON. -/
def json (event : Event) : Json :=
  .object [("id", .string event.id), ("name", .string event.name),
    ("locationId", .string event.location), ("eventDate", .string event.date)]

end Event

namespace Location

/-- All locations. -/
def all : List Location := [⟨"loc-1", "Main Arena", 12000⟩, ⟨"loc-2", "Riverside Hall", 800⟩]

/-- The location of a number. -/
def find? (id : String) : Option Location := all.find? fun location => location.id = id

/-- The location as JSON. -/
def json (location : Location) : Json :=
  .object [("id", .string location.id), ("name", .string location.name),
    ("capacity", .ofNat location.capacity)]

end Location

end LoadTest.Gateway
