/-
**A fixed number of places.**

The exact binary value is rounded to the last place, a half going to the even neighbour.

* `fixed`: the text, minus zero and a negative value rounded to zero keeping their sign.
-/

import LoadTest.Decimal.Layout

namespace LoadTest.Decimal

/-- The value with exactly `places` digits after the point. -/
def fixed (places : Nat) (x : Float) : String :=
  if x.isNaN then "NaN"
  else if x.isInf then (if isSignNegative x then "-inf" else "inf")
  else
    let (num, den) := (Binary.ofBits x.toBits).ratio
    let digits := Nat.toDigits 10 (roundDiv (num * Nat.pow 10 places) den .toEven)
    let padded := List.replicate (places + 1 - digits.length) '0' ++ digits
    let whole := padded.take (padded.length - places)
    let fraction := padded.drop (padded.length - places)
    let text := if places = 0 then whole else whole ++ '.' :: fraction
    String.ofList (if isSignNegative x then '-' :: text else text)

end LoadTest.Decimal
