/-
**Reading JSON into types.**

A reader takes a value as it is written and gives what it stands for, or nothing if it has another
shape. It knows how many levels of brackets may still be open, so texts nested too deep are not
read. Members that a record does not know are either refused or skipped; what is skipped is not
looked into.

* `Reader`: readers of texts, numbers, lists, tables and records;
* `Reader.json`: free JSON, where the last of equal keys counts;
* `Reader.firstOf`: the first shape that fits a value that can be read as a whole;
* `Json.read?`: a text read by a reader.
-/

import LoadTest.Json.Numeral
import LoadTest.Json.Written

namespace LoadTest

open Decimal

namespace Json

/-- Reads a value inside which so many levels of brackets may be opened. -/
abbrev Reader (β : Type) := Nat → Written → Option β

/-- How many levels of brackets a text may have. -/
def maxDepth : Nat := 127

/-- The text of a string. -/
def decodeString (pieces : List Piece) : Option String := (Piece.decode pieces).map String.ofList

mutual

/-- Free JSON, inside which so many levels may be opened. -/
def ofWritten (room : Nat) : Written → Option Json
  | .null => some null
  | .bool value => some (bool value)
  | .number text => (numberOf? text).map number
  | .string pieces => (decodeString pieces).map string
  | .array items =>
    match room with
    | 0 => none
    | room + 1 => (itemsOfWritten room items).map array
  | .object members =>
    match room with
    | 0 => none
    | room + 1 => (membersOfWritten room members).map ofMembers

/-- The items of an array. -/
def itemsOfWritten (room : Nat) : List Written → Option (List Json)
  | [] => some []
  | item :: rest => do some ((← ofWritten room item) :: (← itemsOfWritten room rest))

/-- The members of an object. -/
def membersOfWritten (room : Nat) : List (List Piece × Written) → Option (List (String × Json))
  | [] => some []
  | (key, value) :: rest => do
    some ((← decodeString key, ← ofWritten room value) :: (← membersOfWritten room rest))

end

namespace Reader

variable {β γ : Type}

/-- Free JSON. -/
def json : Reader Json := ofWritten

/-- A text. -/
def string : Reader String
  | _, .string pieces => decodeString pieces
  | _, _ => none

/-- A truth value. -/
def bool : Reader Bool
  | _, .bool value => some value
  | _, _ => none

/-- Any number, as a float. -/
def float : Reader Float
  | _, .number text => (numberOf? text).map Number.toFloat
  | _, _ => none

/-- A whole number up to a limit. -/
def nat (limit : Nat) : Reader Nat
  | _, .number text =>
    match numberOf? text with
    | some (.natural value) => if value ≤ limit then some value else none
    | _ => none
  | _, _ => none

/-- A value, or null for its absence. -/
def nullable (reader : Reader β) : Reader (Option β)
  | _, .null => some none
  | room, value => (reader room value).map some

/-- A list of values. -/
def list (reader : Reader β) : Reader (List β)
  | room + 1, .array items => items.mapM (reader room)
  | _, _ => none

/-- A table of values; of equal keys the last counts. -/
def table (reader : Reader β) : Reader (Table β)
  | room + 1, .object members =>
    (members.mapM fun (key, value) => do
      some (← decodeString key, ← reader room value)).map Table.ofList
  | _, _ => none

/-- One of a few words, or an object with that word as its only key and null as its value. -/
def choice (words : List (String × β)) : Reader β
  | _, .string pieces => (decodeString pieces).bind fun word => words.lookup word
  | _ + 1, .object [(pieces, .null)] => (decodeString pieces).bind fun word => words.lookup word
  | _, _ => none

/-- The result of another reader, changed or refused. -/
def filterMap (reader : Reader β) (f : β → Option γ) : Reader γ :=
  fun room value => (reader room value).bind f

/-- **The first shape that fits**, tried on a value that can be read as a whole. -/
def firstOf (shapes : List (Reader β)) : Reader β := fun room value =>
  match ofWritten room value with
  | none => none
  | some _ => shapes.findSome? fun shape => shape room value

/-- The members of a record by their names. -/
structure Record where
  room : Nat
  /-- Written as an array of its fields in order. -/
  positional : Bool
  members : List (String × Written)

namespace Record

/-- A field that must be there. -/
def need (record : Record) (name : String) (reader : Reader β) : Option β :=
  (record.members.lookup name).bind (reader record.room)

/-- A field that has a default. -/
def withDefault (record : Record) (name : String) (reader : Reader β) (default : β) : Option β :=
  match record.members.lookup name with
  | none => some default
  | some value => reader record.room value

/-- A field that may be absent or null. -/
def maybe (record : Record) (name : String) (reader : Reader β) : Option (Option β) :=
  record.withDefault name (nullable reader) none

/-- A field that may be absent or null, but not absent from the end of an array. -/
def maybeNamed (record : Record) (name : String) (reader : Reader β) : Option (Option β) :=
  if record.positional then record.need name (nullable reader) else record.maybe name reader

end Record

/-- Whether a record may have members that it does not know. -/
inductive Unknown where
  | refused
  | skipped
deriving DecidableEq

/-- The members of an object that a record knows, each at most once. -/
def knownMembers (names : List String) (unknown : Unknown) :
    List (List Piece × Written) → List (String × Written) → Option (List (String × Written))
  | [], known => some known
  | (key, value) :: rest, known => do
    let key ← decodeString key
    if names.contains key then
      if (known.lookup key).isSome then none
      else knownMembers names unknown rest ((key, value) :: known)
    else
      match unknown with
      | .refused => none
      | .skipped => knownMembers names unknown rest known

/-- A record as an object. -/
def object (names : List String) (unknown : Unknown) (read : Record → Option β) : Reader β
  | room + 1, .object members => do
    read ⟨room, false, ← knownMembers names unknown members []⟩
  | _, _ => none

/-- **A record**, as an object or as an array of its fields in order. -/
def record (names : List String) (unknown : Unknown) (read : Record → Option β) : Reader β
  | room + 1, .array items =>
    if items.length ≤ names.length then read ⟨room, true, names.zip items⟩ else none
  | room, value => object names unknown read room value

/-- **A record whose members are joined with those of another part**: its own members as they are
written, and all others in their order as free JSON. -/
def joined (names : List String)
    (read : Record → List (String × Json) → Option β) : Reader β
  | room + 1, .object members => do
    let known ← knownMembers names .skipped members []
    let decoded ← members.mapM fun (key, value) => do some (← decodeString key, value)
    let others ← (decoded.filter fun member => !names.contains member.1).mapM fun (key, value) => do
      some (key, ← ofWritten room value)
    read ⟨room, false, known⟩ others
  | _, _ => none

end Reader

/-- A text read by a reader. -/
def read? {β : Type} (reader : Reader β) (text : String) : Option β :=
  (Written.parse? text).bind (reader maxDepth)

/-- The free JSON of a text. -/
def parse? (text : String) : Option Json := read? Reader.json text

end Json

end LoadTest
