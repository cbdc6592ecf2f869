/-
**The fewest digits that read back.**

Of the decimals that round to a value, the one with the fewest digits is taken, and of those the
nearest. The search runs over the grids of 1, 2, … 17 digits; on each only the value's two
neighbours can be nearest, so only these are tested.

* `Binary.scale`: the least power of ten above the value;
* `Binary.shortest`: the selected decimal, without trailing zeros.
-/

import LoadTest.Decimal.Binary

namespace LoadTest.Decimal

/-- The least `k` with the value below `10 ^ k`, for a value other than zero. -/
def Binary.scale (x : Binary) : Int :=
  let estimate := ((x.significand.log2 : Int) + x.exponent) * 30103 / 100000
  if compareScaled 1 estimate x.significand x.exponent = .gt then estimate
  else if compareScaled 1 (estimate + 1) x.significand x.exponent = .gt then estimate + 1
  else estimate + 2

/-- The greatest multiple of `10 ^ grid` that is not above the value, counted in the grid. -/
def Binary.floorOn (x : Binary) (grid : Int) : Nat :=
  x.significand * Nat.pow 2 x.exponent.toNat * Nat.pow 10 (-grid).toNat /
    (Nat.pow 2 (-x.exponent).toNat * Nat.pow 10 grid.toNat)

/-- The nearer of the value's two neighbours on a grid that read back, if one does. -/
def Binary.onGrid (x : Binary) (tie : Tie) (grid : Int) : Option Digits :=
  let below := x.floorOn grid
  let lower : Digits := ⟨below, grid⟩
  let upper : Digits := ⟨below + 1, grid⟩
  match x.readsBack lower, x.readsBack upper with
  | false, false => none
  | true, false => some lower
  | false, true => some upper
  | true, true =>
    match compareScaled (2 * below + 1) grid (2 * x.significand) x.exponent, tie with
    | .gt, _ => some lower
    | .lt, _ => some upper
    | .eq, .up => some upper
    | .eq, .toEven => if below % 2 = 0 then some lower else some upper

/-- The same decimal without trailing zeros among its digits. -/
def Digits.strip (d : Digits) : Digits :=
  if h : d.digits ≠ 0 ∧ d.digits % 10 = 0 then
    Digits.strip ⟨d.digits / 10, d.exponent + 1⟩
  else d
termination_by d.digits
decreasing_by omega

/-- The value itself as a decimal: every binary fraction has finitely many digits. -/
def Binary.exact (x : Binary) : Digits :=
  ⟨x.significand * Nat.pow 2 x.exponent.toNat * Nat.pow 5 (-x.exponent).toNat, min x.exponent 0⟩

/-- **The nearest of the shortest decimals that read back.** -/
def Binary.shortest (x : Binary) (tie : Tie) : Digits :=
  if x.significand = 0 then ⟨0, 0⟩
  else
    let top := x.scale
    match (List.range 17).findSome? fun n => x.onGrid tie (top - (n + 1 : Nat)) with
    | some d => d.strip
    | none => x.exact.strip

end LoadTest.Decimal
