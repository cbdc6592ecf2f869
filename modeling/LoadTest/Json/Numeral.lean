/-
**The numbers of JSON texts.**

A number keeps its leading digits as long as 64 bits hold them; the digits behind are dropped, and
those of them that stand before the point count as powers of ten. A number with a point or an
exponent is then moved to its place by one float operation, a product or a quotient with a power of
ten. It is rounded twice, so it may differ from the nearest float in its last bits.

* `Numeral.ofText`: the digits that count, and the power of ten behind them;
* `Numeral.value?`: the float, unless it is out of range;
* `numberOf?`: the number of a text, whole or not.
-/

import LoadTest.Json.Basic
import LoadTest.Decimal.Literal

namespace LoadTest.Json

open Decimal

/-- The digits of a number that count, as `significand · 10 ^ exponent`. -/
structure Numeral where
  significand : Nat
  exponent : Int
deriving DecidableEq

namespace Numeral

/-- One more digit behind a number, if 64 bits hold the result. -/
def append? (significand : Nat) (c : Char) : Option Nat :=
  let next := 10 * significand + (c.toNat - '0'.toNat)
  if next ≤ maxWord then some next else none

/-- **The digits that count**: as many as 64 bits hold, with the number of digits behind them. -/
def leading (significand : Nat) : List Char → Nat × Nat
  | [] => (significand, 0)
  | c :: rest =>
    match append? significand c with
    | some next => leading next rest
    | none => (significand, rest.length + 1)

/-- The numeral of the digits before and behind a point, times a power of ten. -/
def ofParts (whole fraction : List Char) (exponent : Int) : Numeral :=
  let (significand, dropped) := leading 0 whole
  let (significand, unread) := leading significand fraction
  ⟨significand, exponent + dropped - (fraction.length - unread : Nat)⟩

/-- **The numeral of a number without its sign.** -/
def ofText (text : List Char) : Numeral :=
  let whole := text.takeWhile Char.isDigit
  let (fraction, tail) := match text.dropWhile Char.isDigit with
    | '.' :: rest => (rest.takeWhile Char.isDigit, rest.dropWhile Char.isDigit)
    | rest => ([], rest)
  ofParts whole fraction ((Literal.exponent? tail).getD 0)

/-- The largest exponent of a power of ten that is a float. -/
def maxPower : Nat := 308

/-- A power of ten, up to the largest. -/
def power (exponent : Nat) : Float := nearest 1 exponent

/-- **A float times a power of ten.** What is too large is none; what is too small is divided by the
largest power first, as often as needed. -/
def scale (value : Float) (exponent : Int) : Option Float :=
  if 0 ≤ exponent then
    if value == 0 then some value
    else if (maxPower : Int) < exponent then none
    else
      let scaled := value * power exponent.toNat
      if scaled.isFinite then some scaled else none
  else if -(maxPower : Int) ≤ exponent then some (value / power exponent.natAbs)
  else if value == 0 then some value
  else scale (value / power maxPower) (exponent + maxPower)
termination_by (-exponent).toNat
decreasing_by simp only [maxPower] at *; omega

/-- The float that a numeral stands for. -/
def value? (numeral : Numeral) : Option Float :=
  scale (nearest numeral.significand 0) numeral.exponent

end Numeral

/-- A float with a sign. -/
def signed (negative : Bool) (value : Float) : Float := if negative then -value else value

/-- **The number of a text**: whole if it has neither fraction nor exponent and fits 64 bits; minus
zero and whole numbers out of range are floats, and what is beyond all floats is none. -/
def numberOf? (text : List Char) : Option Number :=
  let (negative, digits) := Literal.splitSign text
  let magnitude := digitsValue digits
  if digits.all Char.isDigit && !negative && magnitude ≤ maxWord then some (.natural magnitude)
  else if digits.all Char.isDigit && negative && magnitude ≠ 0 && magnitude ≤ maxWord / 2 + 1 then
    some (.negative magnitude)
  else (Numeral.ofText digits).value?.map fun value => .float (signed negative value)

end LoadTest.Json
