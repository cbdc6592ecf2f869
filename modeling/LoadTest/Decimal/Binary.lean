/-
**Binary floating-point values, exactly.**

A finite non-negative `Float` is `significand · 2 ^ exponent`. The reals that round to it form an
interval around it; a decimal in that interval reads back as the value.

* `Binary.ofBits`: the value that a bit pattern stands for;
* `Binary.readsBack`: whether a decimal lies in the interval, both ends included exactly when the
  significand is even;
* `roundHalfAway`, `floorNat`, `ceilNat`: whole numbers near a value, by exact arithmetic.
-/

namespace LoadTest.Decimal

/-- A finite non-negative value `significand · 2 ^ exponent`. -/
structure Binary where
  significand : Nat
  exponent : Int
  /-- The neighbour below is half as far away as the neighbour above. -/
  narrowBelow : Bool
deriving DecidableEq

/-- The value of a finite bit pattern, without its sign. -/
def Binary.ofBits (bits : UInt64) : Binary :=
  let power := ((bits >>> 52) &&& 0x7FF).toNat
  let fraction := (bits &&& 0xFFFFFFFFFFFFF).toNat
  if power = 0 then ⟨fraction, -1074, false⟩
  else ⟨0x10000000000000 + fraction, (power : Int) - 1075, fraction = 0 && 1 < power⟩

/-- Whether a float carries a minus sign, minus zero and a negative NaN included. -/
def isSignNegative (x : Float) : Bool := x.toBits >>> 63 = 1

/-- A decimal `digits · 10 ^ exponent`. -/
structure Digits where
  digits : Nat
  exponent : Int
deriving DecidableEq

/-- The order of `a · 10 ^ i` and `n · 2 ^ j`. -/
def compareScaled (a : Nat) (i : Int) (n : Nat) (j : Int) : Ordering :=
  compare (a * Nat.pow 10 i.toNat * Nat.pow 2 (-j).toNat)
    (n * Nat.pow 2 j.toNat * Nat.pow 10 (-i).toNat)

/-- Whether a decimal lies among the reals that round to the value. -/
def Binary.readsBack (x : Binary) (d : Digits) : Bool :=
  let low := if x.narrowBelow then 4 * x.significand - 1 else 4 * x.significand - 2
  let high := 4 * x.significand + 2
  let closed := x.significand % 2 = 0
  let fromLow := compareScaled d.digits d.exponent low (x.exponent - 2)
  let fromHigh := compareScaled d.digits d.exponent high (x.exponent - 2)
  (fromLow = .gt || (closed && fromLow = .eq)) && (fromHigh = .lt || (closed && fromHigh = .eq))

/-- Which of two equally near results is taken. -/
inductive Tie where
  | toEven
  | up
deriving DecidableEq

/-- The whole number nearest to `num / den`. -/
def roundDiv (num den : Nat) (tie : Tie) : Nat :=
  let quotient := num / den
  match compare (2 * (num % den)) den, tie with
  | .lt, _ => quotient
  | .gt, _ => quotient + 1
  | .eq, .up => quotient + 1
  | .eq, .toEven => if quotient % 2 = 0 then quotient else quotient + 1

/-- The value as a fraction of whole numbers. -/
def Binary.ratio (x : Binary) : Nat × Nat :=
  (x.significand * Nat.pow 2 x.exponent.toNat, Nat.pow 2 (-x.exponent).toNat)

/-- The largest number that 64 bits hold. -/
def maxWord : Nat := 0xFFFFFFFFFFFFFFFF

/-- The nearest whole number of 64 bits, a half going up: zero for what is negative or no number,
the largest such number for what exceeds it. -/
def roundHalfAway (x : Float) : Nat :=
  if x.isNaN || isSignNegative x then 0
  else if x.isInf then maxWord
  else
    let (num, den) := (Binary.ofBits x.toBits).ratio
    min (roundDiv num den .up) maxWord

/-- The largest whole number not above a non-negative finite value. -/
def floorNat (x : Float) : Nat :=
  if x.isNaN || isSignNegative x || x.isInf then 0
  else
    let (num, den) := (Binary.ofBits x.toBits).ratio
    num / den

/-- The largest whole number of 64 bits not above a value; zero for what is negative or no
number. -/
def floorWord (x : Float) : Nat :=
  if x.isInf && !isSignNegative x then maxWord else min (floorNat x) maxWord

/-- The least whole number not below a non-negative finite value. -/
def ceilNat (x : Float) : Nat :=
  if x.isNaN || isSignNegative x || x.isInf then 0
  else
    let (num, den) := (Binary.ofBits x.toBits).ratio
    (num + den - 1) / den

end LoadTest.Decimal
