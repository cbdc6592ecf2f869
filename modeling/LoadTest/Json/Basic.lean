/-
**JSON values.**

Free JSON, as it stands in request bodies and responses. Numbers are whole numbers of 64 bits or
floats; objects are sorted by key.

* `Json.beq`: equality of values, floats being compared as numbers;
* `Json.sorted`: the value with all members sorted by key;
* `Json.pointer?`: the part of a value that a pointer names.
-/

import LoadTest.Table
import LoadTest.Decimal.Literal
import LoadTest.Text.Cut

namespace LoadTest

open Decimal Text

/-- A JSON number. A whole number that fits 64 bits, with its sign or without, is kept as it is. -/
inductive Number where
  | natural (value : Nat)
  /-- `-value`, other than zero -/
  | negative (value : Nat)
  | float (value : Float)
deriving DecidableEq

/-- Whether two numbers are equal; a whole number differs from a float. -/
def Number.beq : Number → Number → Bool
  | natural m, natural n => m == n
  | negative m, negative n => m == n
  | float x, float y => x == y
  | _, _ => false

/-- The number as a float. -/
def Number.toFloat : Number → Float
  | natural value => Float.ofNat value
  | negative value => -Float.ofNat value
  | float value => value

/-- A JSON value. -/
inductive Json where
  | null
  | bool (value : Bool)
  | number (value : Number)
  | string (text : String)
  | array (items : List Json)
  | object (members : List (String × Json))
deriving Inhabited

namespace Json

mutual

/-- Whether two values are equal, floats being compared as numbers. -/
def beq : Json → Json → Bool
  | null, null => true
  | bool a, bool b => a == b
  | number a, number b => a.beq b
  | string a, string b => a == b
  | array a, array b => beqItems a b
  | object a, object b => beqMembers a b
  | _, _ => false

/-- Equality of the items of two arrays. -/
def beqItems : List Json → List Json → Bool
  | [], [] => true
  | a :: as, b :: bs => beq a b && beqItems as bs
  | _, _ => false

/-- Equality of the members of two objects. -/
def beqMembers : List (String × Json) → List (String × Json) → Bool
  | [], [] => true
  | (k, a) :: as, (l, b) :: bs => k == l && beq a b && beqMembers as bs
  | _, _ => false

end

instance : BEq Json := ⟨beq⟩

/-- An object of members in any order; of equal keys the last counts. -/
def ofMembers (members : List (String × Json)) : Json := object (Table.ofList members).toList

/-- A whole number. -/
def ofNat (n : Nat) : Json := number (.natural n)

/-- A float. -/
def ofFloat (x : Float) : Json := number (.float x)

/-- A value that may be absent. -/
def ofOption {β : Type} (json : β → Json) : Option β → Json
  | some value => json value
  | none => null

/-- The members of a table. -/
def ofTable {β : Type} (json : β → Json) (table : Table β) : Json :=
  object (table.toList.map fun (key, value) => (key, json value))

/-- The items of a list. -/
def ofList {β : Type} (json : β → Json) (items : List β) : Json := array (items.map json)

mutual

/-- **The value with the members of every object sorted by key.** -/
def sorted : Json → Json
  | array items => array (sortedItems items)
  | object members => ofMembers (sortedMembers members)
  | value => value

/-- The sorted items of an array. -/
def sortedItems : List Json → List Json
  | [] => []
  | item :: rest => sorted item :: sortedItems rest

/-- The members of an object with sorted values. -/
def sortedMembers : List (String × Json) → List (String × Json)
  | [] => []
  | (key, value) :: rest => (key, sorted value) :: sortedMembers rest

end

/-- The place in an array that a reference names: digits without a leading zero or sign. -/
def index? (reference : List Char) : Option Nat :=
  if reference = ['0'] then some 0
  else if reference.isEmpty || !reference.all Char.isDigit || reference.head? = some '0' then none
  else some (digitsValue reference)

/-- The part of a value that a reference names. -/
def child? (value : Json) (reference : List Char) : Option Json :=
  match value with
  | object members => members.lookup (String.ofList reference)
  | array items => (index? reference).bind fun index => items[index]?
  | _ => none

/-- A reference as it is meant: `~1` is a slash and `~0` a tilde. -/
def unescape : List Char → List Char
  | '~' :: '1' :: rest => '/' :: unescape rest
  | '~' :: '0' :: rest => '~' :: unescape rest
  | c :: rest => c :: unescape rest
  | [] => []

/-- **The part of a value that a pointer names.** The empty pointer names the value itself, any
other begins with a slash. -/
def pointer? (value : Json) (pointer : String) : Option Json :=
  match pointer.toList with
  | [] => some value
  | '/' :: references =>
    (references.splitOn '/').foldlM (fun part reference => part.child? (unescape reference)) value
  | _ => none

end Json

end LoadTest
