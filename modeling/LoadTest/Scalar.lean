/-
**The arithmetic of measurements.**

Measured values, percentiles and the curve of a schedule are computed with the operations of a
`Scalar`. A run computes with floats; the same definitions over the rationals are the exact
reading of them, which has no rounding.

* `Scalar`: the operations, with whole numbers near a value;
* the floats, in the order of their bits where a total order is wanted;
* the rationals.
-/

import LoadTest.Decimal.Binary
import LoadTest.Duration.Basic

namespace LoadTest

/-- Numbers that measurements are computed with. -/
class Scalar (α : Type) extends Add α, Sub α, Mul α, Div α where
  /-- The whole number, or the number nearest to it. -/
  ofNat : Nat → α
  /-- What a sum starts from: adding it to a number gives that number. -/
  nothing : α
  /-- Strictly less; false where one of the two is no number. -/
  lt : α → α → Bool
  /-- Equal as numbers. -/
  eq : α → α → Bool
  /-- A total order, in which values are sorted. -/
  sortLE : α → α → Bool
  /-- Neither infinite nor missing. -/
  isFinite : α → Bool
  /-- The nearest whole number of 64 bits, a half going up; zero for what is negative. -/
  round : α → Nat
  /-- The largest whole number not above a value that is not negative. -/
  floor : α → Nat
  /-- The least whole number not below a value that is not negative. -/
  ceil : α → Nat

/-- The place of a float in the total order: negative values backwards before the others. -/
def sortKey (x : Float) : Int :=
  let bits := x.toBits.toNat
  if bits < 0x8000000000000000 then bits else 0x7FFFFFFFFFFFFFFF - (bits : Int)

instance : Scalar Float where
  ofNat := Float.ofNat
  nothing := -0.0
  lt x y := x < y
  eq x y := x == y
  sortLE x y := sortKey x ≤ sortKey y
  isFinite x := x.isFinite
  round := Decimal.roundHalfAway
  floor := Decimal.floorNat
  ceil := Decimal.ceilNat

instance : Scalar Rat where
  ofNat n := n
  nothing := 0
  lt x y := x < y
  eq x y := x = y
  sortLE x y := x ≤ y
  isFinite _ := true
  round x := min (x + 1 / 2).floor.toNat Decimal.maxWord
  floor x := x.floor.toNat
  ceil x := x.ceil.toNat

namespace Scalar

variable {α : Type} [Scalar α]

/-- The sum of the values, in their order. -/
def sum (values : List α) : α := values.foldl (· + ·) nothing

/-- The values in the total order. -/
def sort (values : List α) : List α := values.mergeSort sortLE

end Scalar

/-- The number of seconds of a span: the whole ones and the fraction, each rounded on its own. -/
def Duration.toScalar {α : Type} [Scalar α] (d : Duration) : α :=
  Scalar.ofNat d.seconds + Scalar.ofNat d.subsecond / Scalar.ofNat nanosPerSecond

end LoadTest
