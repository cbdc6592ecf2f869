/-
**A percentile lies inside the sorted values.**

The place of a percentile is a part from 0 to 1 of the way to the last value. Rounding does not move
it past the last value as long as the values can be counted exactly, so both neighbours exist.

* `percentile_isSome`: a percentile of some values is there.
-/

import LoadTest.Metric.Percentile
import LoadTest.Proofs.Float.Order

namespace LoadTest

open Rounding

theorem Rounding.Denotes.floor {x : Float} {q : ℚ} (denotes : Denotes x q) :
    Scalar.floor x = ⌊q⌋₊ := denotes.floorNat

theorem Rounding.Denotes.ceil {x : Float} {q : ℚ} (denotes : Denotes x q) :
    Scalar.ceil x = ⌈q⌉₊ := denotes.ceilNat

/-- A whole number up to `2 ^ 53` is exact. -/
theorem Rounding.denotes_exact {n : ℕ} (small : n ≤ 2 ^ 53) : Denotes (Scalar.ofNat n) n := by
  have read := denotes_natCast (n := n) (small.trans (by decide))
  rw [near_natCast small] at read
  exact read

/-- A part of a whole, as it is clamped, is still one. -/
theorem denotes_clamp {x : Float} {p : ℚ} (denotes : Denotes x p) (least : 0 ≤ p) (most : p ≤ 1) :
    ∃ c, Denotes (clamp x (Scalar.ofNat 0) (Scalar.ofNat 1)) c ∧ 0 ≤ c ∧ c ≤ 1 := by
  unfold clamp
  split_ifs with below above
  · exact ⟨0, by exact_mod_cast denotes_exact (n := 0) (by decide), le_rfl, zero_le_one⟩
  · exact ⟨1, by exact_mod_cast denotes_exact (n := 1) (by decide), zero_le_one, le_rfl⟩
  · exact ⟨p, denotes, least, most⟩

/-- The place of a percentile among values with a last index. -/
theorem denotes_place {rank : Float} (low : Float.ofNat 0 ≤ rank) (high : rank ≤ Float.ofNat 100)
    {last : ℕ} (few : last ≤ 2 ^ 53) :
    ∃ place, Denotes (clamp (rank / Scalar.ofNat 100) (Scalar.ofNat 0) (Scalar.ofNat 1) *
      Scalar.ofNat last) place ∧ place ≤ last := by
  have zero := denotes_exact (n := 0) (by decide)
  have hundred := denotes_exact (n := 100) (by decide)
  have cast : (last : ℚ) ≤ 2 ^ (53 : ℤ) := by exact_mod_cast few
  have wide : (2 : ℚ) ^ (53 : ℤ) ≤ 2 ^ (128 : ℤ) := zpow_le_zpow_right₀ one_le_two (by norm_num)
  have nonneg : (0 : ℚ) ≤ last := Nat.cast_nonneg last
  obtain ⟨r, denotes, least, most⟩ := denotes_of_between zero hundred low high
  push_cast at least most hundred
  have part : 0 ≤ r / 100 ∧ r / 100 ≤ 1 := ⟨by positivity, by linarith⟩
  have unit : (1 : ℚ) ≤ 2 ^ (128 : ℤ) := one_le_zpow₀ one_le_two (by norm_num)
  have quotient := denotes.div hundred (by norm_num) (inRange_of_le (by
    rw [abs_of_nonneg part.1]
    exact part.2.trans unit))
  have one : near (1 : ℚ) = 1 := by exact_mod_cast near_natCast (n := 1) (by decide)
  have upper : near (r / 100) ≤ 1 := by
    rw [← one]
    exact near_mono part.2
  obtain ⟨c, clamped, atLeast, atMost⟩ := denotes_clamp quotient (near_nonneg part.1) upper
  have product : c * last ≤ last := mul_le_of_le_one_left nonneg atMost
  have range : InRange (c * last) := by
    apply inRange_of_le
    rw [abs_of_nonneg (by positivity)]
    exact (product.trans cast).trans wide
  refine ⟨near (c * last), clamped.mul (denotes_exact few) range, ?_⟩
  calc near (c * last) ≤ near last := near_mono product
    _ = last := near_natCast few

/-- **A percentile of some values is there**, when the values can be counted exactly. -/
theorem percentile_isSome {values : List Float} {rank : Float} (low : Float.ofNat 0 ≤ rank)
    (high : rank ≤ Float.ofNat 100) (some : values ≠ []) (few : values.length ≤ 2 ^ 53) :
    (percentile values rank).isSome = true := by
  match values with
  | [] => contradiction
  | [value] => rfl
  | first :: second :: rest =>
    have length : (first :: second :: rest).length - 1 = rest.length + 1 := rfl
    rw [List.length_cons, List.length_cons] at few
    have last : rest.length + 1 ≤ 2 ^ 53 := by omega
    obtain ⟨place, denotes, inside⟩ := denotes_place low high last
    have lower : ⌊place⌋₊ < (first :: second :: rest).length :=
      Nat.lt_succ_of_le (Nat.floor_le_of_le inside)
    have upper : ⌈place⌉₊ < (first :: second :: rest).length :=
      Nat.lt_succ_of_le (Nat.ceil_le.mpr inside)
    unfold percentile
    dsimp only
    rw [length, denotes.floor, denotes.ceil, List.getElem?_eq_getElem lower,
      List.getElem?_eq_getElem upper]
    rfl

end LoadTest
