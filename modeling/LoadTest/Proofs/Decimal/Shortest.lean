/-
**The shortest decimal of a float rounds to it.**

A decimal reads back as a value if it lies between the value's two midpoints, or on one of them and
the significand is even. These are just the reals whose nearest float is the value, also where the
neighbour below is nearer than the one above. So whatever decimal is selected, rounding it gives the
value back.

* `Digits.value`, `Binary.value`: the numbers that decimals and binary fractions are;
* `compareScaled_eq`: they are compared exactly;
* `Binary.Canonical`: the binary fractions of finite floats;
* `Binary.Around`, `around_of_readsBack`: what reads back lies around the value;
* `Binary.Around.near_eq`: what lies there is rounded to the value;
* `near_shortest`: so is the decimal that is selected.
-/

import LoadTest.Proofs.Float.Sorted
import LoadTest.Proofs.Json.NumberText

namespace LoadTest.Decimal

open Rounding

/-- The number that a decimal is. -/
def Digits.value (d : Digits) : ℚ := d.digits * 10 ^ d.exponent

/-- The number that a binary fraction is. -/
def Binary.value (x : Binary) : ℚ := x.significand * 2 ^ x.exponent

theorem Binary.value_pos {x : Binary} (some : x.significand ≠ 0) : 0 < x.value :=
  mul_pos (Nat.cast_pos.mpr (Nat.pos_of_ne_zero some)) (two_zpow_pos _)

/-- **The binary fraction of a finite float**: its significand has 53 bits, or fewer at the least
exponent, and the neighbour below is nearer just for the powers of two above the least exponent. -/
structure Binary.Canonical (x : Binary) : Prop where
  bits : x.significand < 2 ^ 53
  least : -1074 ≤ x.exponent
  full : 2 ^ 52 ≤ x.significand ∨ x.exponent = -1074
  narrow : x.narrowBelow = true ↔ x.significand = 2 ^ 52 ∧ x.exponent ≠ -1074

theorem canonical_ofBits (bits : UInt64) : (Binary.ofBits bits).Canonical := by
  have fraction : (bits &&& 0xFFFFFFFFFFFFF).toNat < 2 ^ 52 := by
    rw [UInt64.toNat_and]
    exact (Nat.and_le_right).trans_lt (by decide)
  by_cases power : ((bits >>> 52) &&& 0x7FF).toNat = 0
  · rw [ofBits_of_eq_zero power]
    exact ⟨fraction.trans (by decide), le_rfl, .inr rfl, by simp⟩
  · rw [ofBits_of_ne_zero power]
    refine ⟨?_, ?_, .inl ?_, ?_⟩
    · show 0x10000000000000 + _ < 2 ^ 53
      omega
    · show (-1074 : ℤ) ≤ _ - 1075
      omega
    · show 2 ^ 52 ≤ 0x10000000000000 + _
      omega
    · rw [Bool.and_eq_true, decide_eq_true_eq, decide_eq_true_eq]
      show _ ↔ 0x10000000000000 + _ = 2 ^ 52 ∧ (_ - 1075 : ℤ) ≠ -1074
      omega

/-! ### Exact comparisons -/

/-- Powers with whole exponents, the negative ones on the other side. -/
theorem zpow_mul_pow_neg {base : ℚ} (some : base ≠ 0) (i : ℤ) :
    base ^ i * base ^ (-i).toNat = base ^ i.toNat := by
  rw [← zpow_natCast, ← zpow_natCast, ← zpow_add₀ some]
  congr 1
  omega

/-- **Scaled numbers are compared exactly.** -/
theorem compareScaled_eq (a n : ℕ) (i j : ℤ) :
    compareScaled a i n j = compare ((a : ℚ) * 10 ^ i) (n * 2 ^ j) := by
  have positive : (0 : ℚ) < 10 ^ (-i).toNat * 2 ^ (-j).toNat := by positivity
  have left : ((a * 10 ^ i.toNat * 2 ^ (-j).toNat : ℕ) : ℚ) =
      (a * 10 ^ i) * (10 ^ (-i).toNat * 2 ^ (-j).toNat) := by
    push_cast
    rw [← zpow_mul_pow_neg (by norm_num) i]
    ring
  have right : ((n * 2 ^ j.toNat * 10 ^ (-i).toNat : ℕ) : ℚ) =
      (n * 2 ^ j) * (10 ^ (-i).toNat * 2 ^ (-j).toNat) := by
    push_cast
    rw [← zpow_mul_pow_neg (by norm_num) j]
    ring
  show compare (a * 10 ^ i.toNat * 2 ^ (-j).toNat) (n * 2 ^ j.toNat * 10 ^ (-i).toNat) = _
  rcases lt_trichotomy ((a : ℚ) * 10 ^ i) (n * 2 ^ j) with less | same | more
  · have order := mul_lt_mul_of_pos_right less positive
    rw [← left, ← right, Nat.cast_lt] at order
    rw [compare_lt_iff_lt.mpr less, compare_lt_iff_lt.mpr order]
  · rw [same, ← right, Nat.cast_inj] at left
    rw [compare_eq_iff_eq.mpr same, compare_eq_iff_eq.mpr left]
  · have order := mul_lt_mul_of_pos_right more positive
    rw [← left, ← right, Nat.cast_lt] at order
    rw [compare_gt_iff_gt.mpr more, compare_gt_iff_gt.mpr order]

/-! ### What reads back -/

/-- A number between two halves is rounded to the whole number between them, and a half to it if it
is even. -/
theorem halfEven_eq_of_between {y : ℚ} {n : ℤ} (low : n - 1 / 2 ≤ y) (high : y ≤ n + 1 / 2)
    (even : y = n - 1 / 2 ∨ y = n + 1 / 2 → n % 2 = 0) : halfEven y = n := by
  unfold halfEven
  rcases lt_or_ge y n with below | above
  · have floor : ⌊y⌋ = n - 1 := Int.floor_eq_iff.mpr ⟨by push_cast; linarith, by push_cast; linarith⟩
    have rest : Int.fract y = y - n + 1 := by
      rw [Int.fract, floor]
      push_cast
      ring
    rw [rest, floor, if_neg (by linarith)]
    split_ifs with half
    · have whole := even (.inl (by linarith))
      omega
    · ring
  · have floor : ⌊y⌋ = n := Int.floor_eq_iff.mpr ⟨above, by linarith⟩
    have rest : Int.fract y = y - n := by rw [Int.fract, floor]
    rw [rest, floor]
    split_ifs with small half
    · rfl
    · have whole := even (.inr (by linarith))
      omega
    · exact absurd (lt_of_le_of_ne (by linarith) half) small

/-- A number between the halves of its place around some digits is rounded to them. -/
theorem nearSize_eq_of_between {q : ℚ} {n t : ℤ} (fits : place q = t)
    (low : (n - 1 / 2) * 2 ^ t ≤ q) (high : q ≤ (n + 1 / 2) * 2 ^ t)
    (even : q = (n - 1 / 2) * 2 ^ t ∨ q = (n + 1 / 2) * 2 ^ t → n % 2 = 0) :
    nearSize q = n * 2 ^ t := by
  have power : (0 : ℚ) < 2 ^ t := by positivity
  unfold nearSize
  rw [fits, halfEven_eq_of_between ((le_div_iff₀ power).mpr low) ((div_le_iff₀ power).mpr high)]
  rintro (edge | edge)
  · exact even (.inl ((div_eq_iff power.ne').mp edge))
  · exact even (.inr ((div_eq_iff power.ne').mp edge))

/-- What is at least a power of two is not counted in smaller steps than it. -/
theorem le_place_of_zpow_le {q : ℚ} {t : ℤ} (above : 2 ^ (t + 52) ≤ q) : t ≤ place q := by
  have positive : 0 < q := lt_of_lt_of_le (by positivity) above
  have large : t + 52 ≤ Int.log 2 q :=
    (Int.zpow_le_iff_le_log one_lt_two positive).mp (by exact_mod_cast above)
  unfold place
  omega

/-- How far below a value the numbers reach that round to it, in steps of its last digit. -/
def Binary.reach (x : Binary) : ℚ := if x.narrowBelow then 1 / 4 else 1 / 2

/-- **The numbers that round to a value**: those between its two midpoints, and the midpoints too if
its significand is even. -/
structure Binary.Around (x : Binary) (q : ℚ) : Prop where
  low : (x.significand - x.reach) * 2 ^ x.exponent ≤ q
  high : q ≤ (x.significand + 1 / 2) * 2 ^ x.exponent
  even : q = (x.significand - x.reach) * 2 ^ x.exponent ∨
    q = (x.significand + 1 / 2) * 2 ^ x.exponent → x.significand % 2 = 0

section Around

variable {x : Binary} {d : Digits} {q : ℚ}

theorem around_of_readsBack (some : x.significand ≠ 0) (reads : x.readsBack d = true) :
    x.Around d.value := by
  have quarter : (2 : ℚ) ^ (x.exponent - 2) = 2 ^ x.exponent / 4 := by
    rw [zpow_sub₀ two_ne_zero]
    norm_num
  have low : ((if x.narrowBelow then 4 * x.significand - 1 else 4 * x.significand - 2 : ℕ) : ℚ) *
      2 ^ (x.exponent - 2) = (x.significand - x.reach) * 2 ^ x.exponent := by
    rw [quarter, Binary.reach]
    split_ifs <;> rw [Nat.cast_sub (by omega)] <;> push_cast <;> ring
  have high : ((4 * x.significand + 2 : ℕ) : ℚ) * 2 ^ (x.exponent - 2) =
      (x.significand + 1 / 2) * 2 ^ x.exponent := by
    rw [quarter]
    push_cast
    ring
  unfold Binary.readsBack at reads
  simp only [compareScaled_eq, low, high, Bool.and_eq_true, Bool.or_eq_true, decide_eq_true_eq,
    compare_gt_iff_gt, compare_lt_iff_lt, compare_eq_iff_eq] at reads
  obtain ⟨fromLow, fromHigh⟩ := reads
  change d.value > _ ∨ _ ∧ d.value = _ at fromLow
  change d.value < _ ∨ _ ∧ d.value = _ at fromHigh
  refine ⟨?_, ?_, ?_⟩
  · rcases fromLow with above | ⟨-, edge⟩
    · exact above.le
    · exact edge.ge
  · rcases fromHigh with below | ⟨-, edge⟩
    · exact below.le
    · exact edge.le
  · rintro (edge | edge)
    · exact (fromLow.resolve_left fun above => above.ne' edge).1
    · exact (fromHigh.resolve_left fun below => below.ne edge).1

theorem Binary.reach_le (x : Binary) : x.reach ≤ 1 / 2 := by
  unfold reach
  split_ifs <;> norm_num

/-- In the binade of the value its digits are the nearest. -/
theorem Binary.Around.nearSize_of_place (around : x.Around q) (fits : place q = x.exponent) :
    nearSize q = x.value := by
  have power : (0 : ℚ) < 2 ^ x.exponent := by positivity
  refine nearSize_eq_of_between (n := x.significand) fits ?_ around.high ?_
  · refine le_trans (mul_le_mul_of_nonneg_right ?_ power.le) around.low
    have reach := x.reach_le
    push_cast
    linarith
  · rintro (edge | edge)
    · have wide : x.reach = 1 / 2 := by
        have low := around.low
        rw [edge] at low
        have digits := le_of_mul_le_mul_right low power
        have reach := x.reach_le
        push_cast at digits
        linarith
      have even := around.even (.inl (by rw [edge, wide]; rfl))
      omega
    · have even := around.even (.inr edge)
      omega

variable (some : x.significand ≠ 0) (canonical : x.Canonical) (around : x.Around q)

include some canonical around

/-- Around a value all numbers are below the power of two that is behind its digits. -/
theorem Binary.Around.bounds : 0 < q ∧ q < 2 ^ (x.exponent + 53) := by
  have power : (0 : ℚ) < 2 ^ x.exponent := by positivity
  have least : (1 : ℚ) ≤ x.significand := by exact_mod_cast Nat.pos_of_ne_zero some
  have most : (x.significand : ℚ) + 1 ≤ 2 ^ (53 : ℤ) := by exact_mod_cast canonical.bits
  constructor
  · refine lt_of_lt_of_le ?_ around.low
    have reach := x.reach_le
    exact mul_pos (by linarith) power
  · refine around.high.trans_lt ?_
    rw [add_comm x.exponent, zpow_add₀ two_ne_zero]
    refine mul_lt_mul_of_pos_right ?_ power
    linarith

/-- Below the binade of the value, the value is the power of two at its end. -/
theorem Binary.Around.nearSize_of_lt (later : x.exponent ≠ -1074)
    (below : q < 2 ^ (x.exponent + 52)) : nearSize q = x.value := by
  obtain ⟨positive, -⟩ := around.bounds some canonical
  have power : (0 : ℚ) < 2 ^ x.exponent := by positivity
  have half : (2 : ℚ) ^ (x.exponent - 1) = 2 ^ x.exponent / 2 := by
    rw [zpow_sub₀ two_ne_zero, zpow_one]
  rw [add_comm x.exponent, zpow_add₀ two_ne_zero] at below
  have least := canonical.least
  have first : x.significand = 2 ^ 52 := by
    refine le_antisymm ?_ (canonical.full.resolve_right later)
    by_contra above
    have more : (2 : ℚ) ^ (52 : ℤ) + 1 ≤ x.significand := by exact_mod_cast not_le.mp above
    have digits := lt_of_mul_lt_mul_right (around.low.trans_lt below) power.le
    have reach := x.reach_le
    linarith
  have reach : x.reach = 1 / 4 := if_pos (canonical.narrow.mpr ⟨first, later⟩)
  have low := around.low
  rw [reach, first] at low
  have fits : place q = x.exponent - 1 := by
    refine le_antisymm (place_le positive ?_ (by omega)) (le_place_of_zpow_le ?_)
    · rw [show x.exponent - 1 + 53 = 52 + x.exponent by ring, zpow_add₀ two_ne_zero]
      exact below
    · rw [show x.exponent - 1 + 52 = 51 + x.exponent by ring, zpow_add₀ two_ne_zero]
      refine le_trans (mul_le_mul_of_nonneg_right ?_ power.le) low
      norm_num
  rw [nearSize_eq_of_between (n := 2 ^ 53) fits ?_ ?_ fun _ => by norm_num]
  · rw [Binary.value, first, half]
    push_cast
    ring
  · rw [half]
    push_cast at low ⊢
    linarith
  · rw [half]
    norm_num at below ⊢
    linarith

/-- **What lies around a value is rounded to it.** -/
theorem Binary.Around.near_eq : near q = x.value := by
  obtain ⟨positive, above⟩ := around.bounds some canonical
  have least := canonical.least
  rw [near_of_nonneg positive.le]
  by_cases own : 2 ^ (x.exponent + 52) ≤ q ∨ x.exponent = -1074
  · refine around.nearSize_of_place
      (le_antisymm (place_le positive above least) ?_)
    rcases own with reaches | edge
    · exact le_place_of_zpow_le reaches
    · rw [edge]
      exact le_max_right _ _
  · rw [not_or, not_le] at own
    exact around.nearSize_of_lt some canonical own.2 own.1

end Around

/-! ### The selected decimal -/

/-- Trailing zeros have no part in the number. -/
theorem value_strip (d : Digits) : d.strip.value = d.value := by
  fun_induction Digits.strip d with
  | case1 d divides ih =>
    rw [ih]
    have whole : ((d.digits / 10 : ℕ) : ℚ) * 10 = d.digits := by
      exact_mod_cast Nat.div_mul_cancel (Nat.dvd_of_mod_eq_zero divides.2)
    unfold Digits.value
    rw [zpow_add_one₀ (by norm_num), ← whole]
    ring
  | case2 => rfl

/-- The value as a decimal is the value. -/
theorem value_exact (x : Binary) : x.exact.value = x.value := by
  show ((x.significand * 2 ^ x.exponent.toNat * 5 ^ (-x.exponent).toNat : ℕ) : ℚ) *
    10 ^ min x.exponent 0 = x.significand * 2 ^ x.exponent
  have least : min x.exponent 0 = -((-x.exponent).toNat : ℤ) := by omega
  rw [least, zpow_neg, zpow_natCast, show (10 : ℚ) = 2 * 5 by norm_num, mul_pow]
  push_cast
  rw [← zpow_mul_pow_neg two_ne_zero x.exponent]
  field_simp

/-- **The decimal that is selected for a value is rounded to it.** -/
theorem near_shortest {x : Binary} (some : x.significand ≠ 0) (canonical : x.Canonical) (tie : Tie) :
    near (x.shortest tie).value = x.value := by
  unfold Binary.shortest
  rw [if_neg some]
  dsimp only
  split
  · rename_i d found
    obtain ⟨n, -, own⟩ := List.exists_of_findSome?_eq_some found
    rw [value_strip]
    exact (around_of_readsBack some (readsBack_onGrid own)).near_eq some canonical
  · rw [value_strip, value_exact]
    have bits : |(x.significand : ℤ)| < 2 ^ 53 := by
      rw [abs_of_nonneg (Int.natCast_nonneg _)]
      exact_mod_cast canonical.bits
    exact_mod_cast near_grid bits canonical.least

end LoadTest.Decimal
