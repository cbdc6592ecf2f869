/-
**Sums of spans.**

A duration is a whole number of nanoseconds, and sums stop at the longest one. Over the rationals a
duration has exactly as many seconds as its nanoseconds make.

* `Duration.nanos_sum`: the sum of a list of spans;
* `Duration.toScalar_rat`: the seconds of a span.
-/

import Mathlib.Data.List.Basic
import Mathlib.Data.Rat.Cast.Order
import Mathlib.Tactic.FieldSimp
import Mathlib.Tactic.Linarith
import Mathlib.Tactic.Ring
import LoadTest.Scalar

namespace LoadTest

namespace Duration

@[simp] theorem nanos_zero : zero.nanos = 0 := rfl

theorem nanos_le_longest (d : Duration) : d.nanos ≤ longest.nanos := by
  have bounded := d.bounded
  simp only [longest]
  omega

theorem nanos_ofNanos {nanos : Nat} (fits : nanos ≤ longest.nanos) :
    (ofNanos nanos).nanos = nanos := by
  have inRange : nanos < (Decimal.maxWord + 1) * nanosPerSecond := by
    simp only [longest, Decimal.maxWord, nanosPerSecond] at fits ⊢
    omega
  simp [ofNanos, ofNanos?, inRange]

theorem nanos_foldl_add (spans : List Duration) (d : Duration) :
    (spans.foldl add d).nanos = min (d.nanos + (spans.map nanos).sum) longest.nanos := by
  induction spans generalizing d with
  | nil =>
    have bound := nanos_le_longest d
    simp [bound]
  | cons span rest ih =>
    have step : (d.add span).nanos = min (d.nanos + span.nanos) longest.nanos := nanos_add d span
    rw [List.foldl_cons, ih, step, List.map_cons, List.sum_cons]
    omega

/-- **A sum of spans is exact up to the longest span and stops there.** -/
theorem nanos_sum (spans : List Duration) :
    (sum spans).nanos = min (spans.map nanos).sum longest.nanos := by
  have walked := nanos_foldl_add spans zero
  rwa [nanos_zero, Nat.zero_add] at walked

/-- **Over the rationals a span has as many seconds as its nanoseconds make.** -/
theorem toScalar_rat (d : Duration) : (d.toScalar : ℚ) = d.nanos / 1000000000 := by
  have parts : 1000000000 * (d.nanos / 1000000000) + d.nanos % 1000000000 = d.nanos :=
    Nat.div_add_mod d.nanos 1000000000
  have exact : (d.nanos : ℚ) =
      1000000000 * ((d.nanos / 1000000000 : ℕ) : ℚ) + ((d.nanos % 1000000000 : ℕ) : ℚ) := by
    exact_mod_cast parts.symm
  show ((d.nanos / 1000000000 : ℕ) : ℚ) + ((d.nanos % 1000000000 : ℕ) : ℚ) / (1000000000 : ℕ) = _
  rw [exact]
  push_cast
  field_simp

end Duration

end LoadTest
