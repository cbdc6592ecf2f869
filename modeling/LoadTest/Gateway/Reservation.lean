/-
**Reservations.**

A reservation names an event, its price and the seats. It comes as JSON, in members of any order or
as an array of its parts.

* `Reservation.stream`: reads a reservation;
* `Reservation.isAcceptable`: whether the gateway takes it.
-/

import LoadTest.Gateway.Catalogue
import LoadTest.Json.Stream

namespace LoadTest.Gateway

open Json (Stream)

/-- A seat of a location. -/
structure Seat where
  zone : Int
  row : Int
  column : Int
deriving DecidableEq

/-- A reservation of seats. -/
structure Reservation where
  event : String
  price : Float
  seats : List Seat

/-- A part of what is read, with what is left. -/
def keep {β δ : Type} (reader : Stream β) (store : β → δ) : Stream δ := fun tokens =>
  (reader tokens).map fun (value, rest) => (store value, rest)

namespace Seat

/-- The parts of a seat that were read. -/
structure Draft where
  zone : Option Int := none
  row : Option Int := none
  column : Option Int := none

/-- A whole number of 32 bits. -/
def number : Stream Int := Stream.int (-2147483648) 2147483647

/-- The parts of a seat in their order. -/
def fields : List (Stream.Field Draft) :=
  [⟨"zoneNumber", fun draft => draft.zone.isSome,
      fun draft => keep number fun zone => { draft with zone := some zone }⟩,
    ⟨"row", fun draft => draft.row.isSome,
      fun draft => keep number fun row => { draft with row := some row }⟩,
    ⟨"column", fun draft => draft.column.isSome,
      fun draft => keep number fun column => { draft with column := some column }⟩]

/-- Reads a seat. -/
def stream : Stream Seat :=
  Stream.record fields {} fun draft => do some ⟨← draft.zone, ← draft.row, ← draft.column⟩

end Seat

namespace Reservation

/-- The parts of a reservation that were read. -/
structure Draft where
  event : Option String := none
  price : Option Float := none
  seats : Option (List Seat) := none

/-- The parts of a reservation in their order. -/
def fields : List (Stream.Field Draft) :=
  [⟨"eventId", fun draft => draft.event.isSome,
      fun draft => keep Stream.string fun event => { draft with event := some event }⟩,
    ⟨"totalPrice", fun draft => draft.price.isSome,
      fun draft => keep Stream.float fun price => { draft with price := some price }⟩,
    ⟨"seats", fun draft => draft.seats.isSome,
      fun draft => keep (Stream.list Seat.stream) fun seats => { draft with seats := some seats }⟩]

/-- **Reads a reservation.** -/
def stream : Stream Reservation :=
  Stream.record fields {} fun draft => do some ⟨← draft.event, ← draft.price, ← draft.seats⟩

/-- **Whether the gateway takes the reservation**: it has seats, and there is such an event. -/
def isAcceptable (reservation : Reservation) : Bool :=
  !reservation.seats.isEmpty && (Event.find? reservation.event).isSome

end Reservation

end LoadTest.Gateway
