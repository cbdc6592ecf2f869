/-
**The seconds of a span, as a float.**

A span is read as its whole seconds and its fraction of a second, each rounded, and their rounded
sum. Rounding could turn the order of two spans around where the whole seconds change, since from
`2 ^ 53` on not every number of seconds is a float; it does not, because a fraction of a second is
then less than half a step.

* `Duration.nearSeconds`: the number of seconds that the float denotes;
* `Duration.nearSeconds_mono`: a longer span has no fewer seconds;
* `Duration.denotes_toScalar`: the float denotes that number.
-/

import LoadTest.Proofs.Duration.Sums
import LoadTest.Proofs.Float.Denotes

namespace LoadTest

open Rounding

namespace Duration

/-! ### The number of seconds -/

/-- The fraction of a second, rounded. -/
def nearFraction (d : Duration) : ℚ := near ((d.subsecond : ℚ) / 1000000000)

/-- The seconds of a span, rounded part by part. -/
def nearSeconds (d : Duration) : ℚ := near (near d.seconds + d.nearFraction)

theorem subsecond_lt (d : Duration) : d.subsecond < 1000000000 := Nat.mod_lt _ (by decide)

theorem seconds_subsecond (d : Duration) : d.seconds * 1000000000 + d.subsecond = d.nanos :=
  Nat.div_add_mod' d.nanos nanosPerSecond

theorem seconds_lt (d : Duration) : d.seconds < 2 ^ 64 := by
  have parts := d.seconds_subsecond
  have bounded : d.nanos < 2 ^ 64 * 1000000000 := d.bounded
  omega

theorem nearFraction_nonneg (d : Duration) : 0 ≤ d.nearFraction := near_nonneg (by positivity)

theorem nearFraction_lt_one (d : Duration) : d.nearFraction < 1 := by
  have part : (d.subsecond : ℚ) ≤ 999999999 := by
    have small := d.subsecond_lt
    exact_mod_cast Nat.le_of_lt_succ small
  -- The greatest fraction is below a number of 30 bits that is less than one.
  have kept : near ((1073741823 : ℤ) * 2 ^ (-30 : ℤ)) = (1073741823 : ℤ) * 2 ^ (-30 : ℤ) :=
    near_grid (by norm_num) (by norm_num)
  calc d.nearFraction ≤ near ((1073741823 : ℤ) * 2 ^ (-30 : ℤ)) := by
        apply near_mono
        norm_num
        linarith
    _ = (1073741823 : ℤ) * 2 ^ (-30 : ℤ) := kept
    _ < 1 := by norm_num

theorem near_seconds_nonneg (d : Duration) : 0 ≤ near (d.seconds : ℚ) :=
  near_nonneg (Nat.cast_nonneg _)

theorem nearSeconds_nonneg (d : Duration) : 0 ≤ d.nearSeconds :=
  near_nonneg (add_nonneg d.near_seconds_nonneg d.nearFraction_nonneg)

/-- The rounded whole seconds are not rounded again. -/
theorem near_near_seconds (d : Duration) : near (near (d.seconds : ℚ)) = near d.seconds :=
  (denotes_natCast d.seconds_lt.le).near

/-- A span is not rounded past the next whole second. -/
theorem nearSeconds_le_succ (d : Duration) : d.nearSeconds ≤ near ((d.seconds : ℚ) + 1) := by
  rcases le_or_gt d.seconds (2 ^ 53) with small | large
  · unfold nearSeconds
    rw [near_natCast small]
    apply near_mono
    linarith [d.nearFraction_lt_one]
  · have power : near (2 ^ (53 : ℤ)) = 2 ^ (53 : ℤ) := near_zpow (by norm_num)
    have reach : (2 : ℚ) ^ (53 : ℤ) ≤ near d.seconds := by
      rw [← power]
      apply near_mono
      exact_mod_cast large.le
    unfold nearSeconds
    rw [near_add_small (d.near_near_seconds) reach d.nearFraction_nonneg d.nearFraction_lt_one]
    exact near_mono (by linarith)

/-- **A longer span has no fewer seconds.** -/
theorem nearSeconds_mono {d e : Duration} (order : d ≤ e) : d.nearSeconds ≤ e.nearSeconds := by
  have nanos : d.nanos ≤ e.nanos := order
  have partsD := d.seconds_subsecond
  have partsE := e.seconds_subsecond
  have smallD := d.subsecond_lt
  have smallE := e.subsecond_lt
  rcases Nat.lt_or_ge d.seconds e.seconds with apart | notAbove
  · have next : (d.seconds : ℚ) + 1 ≤ e.seconds := by exact_mod_cast apart
    calc d.nearSeconds ≤ near ((d.seconds : ℚ) + 1) := d.nearSeconds_le_succ
      _ ≤ near (e.seconds : ℚ) := near_mono next
      _ = near (near (e.seconds : ℚ)) := e.near_near_seconds.symm
      _ ≤ e.nearSeconds := near_mono (by linarith [e.nearFraction_nonneg])
  · have same : d.seconds = e.seconds := by omega
    have fraction : d.nearFraction ≤ e.nearFraction := by
      apply near_mono
      have part : (d.subsecond : ℚ) ≤ e.subsecond := by
        have rest : d.subsecond ≤ e.subsecond := by omega
        exact_mod_cast rest
      linarith
    unfold nearSeconds
    rw [same]
    exact near_mono (by linarith)

/-- A span that is not empty has a positive number of seconds. -/
theorem nearSeconds_pos {d : Duration} (lasts : 0 < d.nanos) : 0 < d.nearSeconds := by
  have parts := d.seconds_subsecond
  have power : near (2 ^ (-30 : ℤ)) = 2 ^ (-30 : ℤ) := near_zpow (by norm_num)
  have above : (2 : ℚ) ^ (-30 : ℤ) ≤ near d.seconds + d.nearFraction := by
    rcases Nat.eq_zero_or_pos d.seconds with none | some
    · have part : (1 : ℚ) ≤ d.subsecond := by
        have rest : 1 ≤ d.subsecond := by omega
        exact_mod_cast rest
      have fraction : (2 : ℚ) ^ (-30 : ℤ) ≤ d.nearFraction := by
        rw [← power]
        apply near_mono
        norm_num
        linarith
      linarith [d.near_seconds_nonneg]
    · have one : (1 : ℚ) ≤ near d.seconds := by
        have kept : near ((1 : ℕ) : ℚ) = (1 : ℕ) := near_natCast (by norm_num)
        rw [Nat.cast_one] at kept
        rw [← kept]
        apply near_mono
        exact_mod_cast some
      have small : (2 : ℚ) ^ (-30 : ℤ) ≤ 1 := by norm_num
      linarith [d.nearFraction_nonneg]
  calc (0 : ℚ) < 2 ^ (-30 : ℤ) := by positivity
    _ = near (2 ^ (-30 : ℤ)) := power.symm
    _ ≤ d.nearSeconds := near_mono above

theorem nearSeconds_le (d : Duration) : d.nearSeconds ≤ 2 ^ (65 : ℤ) := by
  have power : ∀ e : ℤ, 0 ≤ e → near (2 ^ e) = 2 ^ e := fun e nonneg => near_zpow (by omega)
  have whole : near (d.seconds : ℚ) ≤ 2 ^ (64 : ℤ) := by
    rw [← power 64 (by norm_num)]
    apply near_mono
    exact_mod_cast d.seconds_lt.le
  rw [← power 65 (by norm_num)]
  apply near_mono
  have step : (2 : ℚ) ^ (64 : ℤ) + 1 ≤ 2 ^ (65 : ℤ) := by norm_num
  linarith [d.nearFraction_lt_one]

/-! ### The float -/

/-- **The float of a span denotes its seconds.** -/
theorem denotes_toScalar (d : Duration) : Denotes (d.toScalar : Float) d.nearSeconds := by
  have whole : Denotes (Float.ofNat d.seconds) (near d.seconds) := denotes_natCast d.seconds_lt.le
  have part : Denotes (Float.ofNat d.subsecond) d.subsecond := by
    have read := denotes_natCast (n := d.subsecond) (by have small := d.subsecond_lt; omega)
    rwa [near_natCast (by have small := d.subsecond_lt; omega)] at read
  have unit : Denotes (Float.ofNat nanosPerSecond) (1000000000 : ℚ) := by
    have read := denotes_natCast (n := 1000000000) (by norm_num)
    rw [near_natCast (by norm_num)] at read
    exact_mod_cast read
  have fraction : Denotes (Float.ofNat d.subsecond / Float.ofNat nanosPerSecond) d.nearFraction := by
    apply part.div unit (by norm_num)
    apply inRange_of_le
    rw [abs_of_nonneg (by positivity)]
    have small : (d.subsecond : ℚ) < 1000000000 := by exact_mod_cast d.subsecond_lt
    have below : (d.subsecond : ℚ) / 1000000000 ≤ 1 := by linarith
    exact below.trans (by norm_num)
  apply whole.add fraction
  apply inRange_of_le
  rw [abs_of_nonneg (add_nonneg d.near_seconds_nonneg d.nearFraction_nonneg)]
  have power : near (2 ^ (64 : ℤ)) = 2 ^ (64 : ℤ) := near_zpow (by norm_num)
  have bound : near (d.seconds : ℚ) ≤ 2 ^ (64 : ℤ) := by
    rw [← power]
    apply near_mono
    exact_mod_cast d.seconds_lt.le
  have step : (2 : ℚ) ^ (64 : ℤ) + 1 ≤ 2 ^ (128 : ℤ) := by norm_num
  linarith [d.nearFraction_lt_one]

end Duration

end LoadTest
