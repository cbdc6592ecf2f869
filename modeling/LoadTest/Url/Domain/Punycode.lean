/-
**Texts in ASCII letters and digits.**

A text with other characters is written as its ASCII characters and a hyphen, and then, for each
other character in ascending order, how far it lies from the one before, in digits whose weights
adapt to what came before.

* `Punycode.encode` and `Punycode.decode?`: the encoding of a text, and the text of an encoding.
-/

import LoadTest.Text.Cut

namespace LoadTest.Punycode

open Text

/-- A digit of the encoding: the letters, then the ten digits. -/
def digitChar (digit : Nat) : Char :=
  if digit < 26 then Char.ofNat ('a'.toNat + digit) else Char.ofNat ('0'.toNat + digit - 26)

/-- The value of a digit. -/
def digit? (c : Char) : Option Nat :=
  if 'a' ≤ c ∧ c ≤ 'z' then some (c.toNat - 'a'.toNat)
  else if c.isDigit then some (c.toNat - '0'.toNat + 26)
  else none

/-- The weight at which the digit in a place ends the number. -/
def threshold (place bias : Nat) : Nat := min 26 (max 1 (place - bias))

/-- Divides by 35 until at most 455 is left, counting 36 for each division. -/
def adaptFrom (delta : Nat) (count : Nat) : Nat :=
  if 455 < delta then adaptFrom (delta / 35) (count + 36) else count + 36 * delta / (delta + 38)
termination_by delta
decreasing_by omega

/-- The bias after a distance, from how many characters there are by then. -/
def adapt (delta points : Nat) (first : Bool) : Nat :=
  let delta := if first then delta / 700 else delta / 2
  adaptFrom (delta + delta / points) 0

/-- The digits of a number, the least place first. -/
def number (n place bias : Nat) : List Char :=
  let t := threshold place bias
  if n < t then [digitChar n]
  else digitChar (t + (n - t) % (36 - t)) :: number ((n - t) / (36 - t)) (place + 36) bias
termination_by n
decreasing_by
  have positive : 1 ≤ threshold place bias := by unfold threshold; omega
  exact Nat.lt_of_le_of_lt (Nat.div_le_self ..) (by omega)

/-- The encoder: how many characters are written, the bias and the distance so far. -/
structure Encoder where
  handled : Nat
  bias : Nat
  delta : Nat
  text : List Char

/-- Writes the places of one code point. -/
def encodePoint (point basic : Nat) (points : List Nat) (encoder : Encoder) : Encoder :=
  points.foldl (fun e other =>
    if other < point then { e with delta := e.delta + 1 }
    else if other = point then
      { handled := e.handled + 1
        bias := adapt e.delta (e.handled + 1) (e.handled = basic)
        delta := 0
        text := e.text ++ number e.delta 36 e.bias }
    else e) encoder

/-- **The encoding of a text with characters beyond ASCII.** -/
def encode (text : List Char) : List Char :=
  let points := text.map Char.toNat
  let basic := text.filter fun c => c.toNat < 0x80
  let others := ((points.filter (0x80 ≤ ·)).mergeSort).eraseDups
  let start : Encoder := ⟨basic.length, 72, 0, if basic.isEmpty then [] else basic ++ ['-']⟩
  let (encoder, _) := others.foldl (fun (e, next) point =>
    let e := { e with delta := e.delta + (point - next) * (e.handled + 1) }
    let e := encodePoint point basic.length points e
    ({ e with delta := e.delta + 1 }, point + 1)) (start, 0x80)
  encoder.text

/-- A decoder between two digits: what is decoded, the next code point and place, and the number
that is being read with the weight and place of its next digit. -/
structure Decoder where
  text : List Char
  point : Nat
  position : Nat
  bias : Nat
  value : Nat
  weight : Nat
  place : Nat
  reading : Bool

/-- The decoder after one more digit. A weight beyond 32 bits is a fault, and so is a code point that
is no character. -/
def decodeStep (d : Decoder) (c : Char) : Option Decoder := do
  let digit ← digit? c
  let value := d.value + digit * d.weight
  let t := threshold d.place d.bias
  if t ≤ digit then
    let weight := d.weight * (36 - t)
    if 0xFFFFFFFF < weight then none
    else some { d with value, weight, place := d.place + 36, reading := true }
  else
    let size := d.text.length + 1
    let moved := d.position + value
    let point := d.point + moved / size
    if 0x110000 ≤ point ∨ (0xD800 ≤ point ∧ point < 0xE000) then none
    else
      let position := moved % size
      some {
        text := d.text.take position ++ Char.ofNat point :: d.text.drop position
        point
        position := position + 1
        bias := adapt value size (d.point = 0x80 && d.position = 0)
        value := 0
        weight := 1
        place := 36
        reading := false }

/-- The ASCII characters of an encoding and its digits. A hyphen at its beginning parts nothing. -/
def parts (text : List Char) : List Char × List Char :=
  match splitLast '-' text with
  | some (c :: basic, digits) => (c :: basic, digits)
  | _ => ([], text)

/-- **The text of an encoding.** -/
def decode? (text : List Char) : Option (List Char) := do
  let (basic, digits) := parts text
  let start : Decoder := ⟨basic, 0x80, 0, 72, 0, 1, 36, false⟩
  let decoder ← digits.foldlM decodeStep start
  if decoder.reading then none else some decoder.text

end LoadTest.Punycode
