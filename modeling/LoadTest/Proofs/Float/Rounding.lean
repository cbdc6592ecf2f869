/-
**Rounding to the numbers of a float.**

A float of 64 bits is a whole number of at most 53 bits times a power of two that is at least
`2 ^ -1074`. A rational number is rounded to the nearest multiple of the power of its size, a half
going to the even multiple. Infinities are left out here: a number is rounded as if exponents had
no upper end.

* `Rounding.halfEven`: the nearest whole number;
* `Rounding.place`: the exponent of the last digit of a number;
* `Rounding.near`: the nearest number of a float;
* `Rounding.near_mono`: rounding keeps the order;
* `Rounding.near_grid`: rounding keeps what it can represent;
* `Rounding.near_add_small`: a large number does not change by a fraction.
-/

import Mathlib.Algebra.Order.Field.Power
import Mathlib.Algebra.Order.Floor.Ring
import Mathlib.Algebra.Order.Round
import Mathlib.Data.Int.Log
import Mathlib.Data.Rat.Floor
import Mathlib.Tactic.Linarith
import Mathlib.Tactic.Positivity

namespace LoadTest.Rounding

/-! ### Whole numbers -/

/-- The nearest whole number, a half going to the even one. -/
def halfEven (x : ℚ) : ℤ :=
  if Int.fract x < 1 / 2 then ⌊x⌋
  else if Int.fract x = 1 / 2 then ⌊x⌋ + ⌊x⌋ % 2
  else ⌊x⌋ + 1

@[simp] theorem halfEven_intCast (n : ℤ) : halfEven n = n := by
  simp [halfEven]

@[simp] theorem halfEven_zero : halfEven 0 = 0 := by
  exact_mod_cast halfEven_intCast 0

theorem floor_le_halfEven (x : ℚ) : ⌊x⌋ ≤ halfEven x := by
  unfold halfEven
  split_ifs <;> omega

theorem halfEven_le_floor_add_one (x : ℚ) : halfEven x ≤ ⌊x⌋ + 1 := by
  unfold halfEven
  split_ifs <;> omega

/-- The nearest whole number keeps the order. -/
theorem halfEven_mono {x y : ℚ} (order : x ≤ y) : halfEven x ≤ halfEven y := by
  rcases (Int.floor_mono order).lt_or_eq with apart | same
  · calc halfEven x ≤ ⌊x⌋ + 1 := halfEven_le_floor_add_one x
      _ ≤ ⌊y⌋ := apart
      _ ≤ halfEven y := floor_le_halfEven y
  · have fracts : Int.fract x ≤ Int.fract y := by
      unfold Int.fract
      rw [same]
      linarith
    unfold halfEven
    rw [same]
    split_ifs with lowX lowY halfY halfX lowY' halfY' lowY'' halfY''
    all_goals first | omega | grind

theorem halfEven_le {x : ℚ} {n : ℤ} (below : x ≤ n) : halfEven x ≤ n := by
  rw [← halfEven_intCast n]
  exact halfEven_mono below

theorem le_halfEven {x : ℚ} {n : ℤ} (above : (n : ℚ) ≤ x) : n ≤ halfEven x := by
  rw [← halfEven_intCast n]
  exact halfEven_mono above

/-- What is less than a half above a whole number is rounded down to it. -/
theorem halfEven_add_of_lt_half (n : ℤ) {part : ℚ} (nonneg : 0 ≤ part) (small : part < 1 / 2) :
    halfEven (n + part) = n := by
  have whole : ⌊(n : ℚ) + part⌋ = n := by
    rw [Int.floor_intCast_add, Int.floor_eq_zero_iff.mpr ⟨nonneg, by linarith⟩, add_zero]
  have rest : Int.fract ((n : ℚ) + part) < 1 / 2 := by
    rw [Int.fract_intCast_add, Int.fract_eq_self.mpr ⟨nonneg, by linarith⟩]
    exact small
  rw [halfEven, if_pos rest, whole]

/-! ### The numbers of a float -/

/-- The exponent of the last digit of a positive number. -/
def place (x : ℚ) : ℤ := max (Int.log 2 x - 52) (-1074)

/-- The nearest number of a float to one that is not negative. -/
def nearSize (x : ℚ) : ℚ := halfEven (x / 2 ^ place x) * 2 ^ place x

/-- **The nearest number of a float**, as if there were no greatest one. -/
def near (x : ℚ) : ℚ := if x < 0 then -nearSize (-x) else nearSize x

/-- A number that some float has, with a whole number of digits behind some place. -/
def OnGrid (x : ℚ) : Prop := ∃ n : ℤ, x = n * 2 ^ place x

theorem place_mono {x y : ℚ} (positive : 0 < x) (order : x ≤ y) : place x ≤ place y :=
  max_le_max (Int.sub_le_sub_right (Int.log_mono_right positive order) _) le_rfl

theorem place_le {x : ℚ} {e : ℤ} (positive : 0 < x) (below : x < 2 ^ (e + 53)) (least : -1074 ≤ e) :
    place x ≤ e := by
  have small : Int.log 2 x < e + 53 :=
    (Int.lt_zpow_iff_log_lt one_lt_two positive).mp (by exact_mod_cast below)
  unfold place
  omega

/-- A number of at most 53 bits is on the grid. -/
theorem onGrid_of_place_le {x : ℚ} {e : ℤ} (n : ℤ) (value : x = n * 2 ^ e) (fits : place x ≤ e) :
    OnGrid x := by
  refine ⟨n * 2 ^ (e - place x).toNat, ?_⟩
  have span : ((2 : ℚ) ^ (e - place x).toNat) * 2 ^ place x = 2 ^ e := by
    rw [← zpow_natCast, Int.toNat_of_nonneg (by omega), ← zpow_add₀ two_ne_zero]
    congr 1
    omega
  push_cast
  rw [mul_assoc, span]
  exact value

theorem nearSize_of_onGrid {x : ℚ} (grid : OnGrid x) : nearSize x = x := by
  obtain ⟨n, value⟩ := grid
  have power : (2 : ℚ) ^ place x ≠ 0 := zpow_ne_zero _ two_ne_zero
  have digits : x / 2 ^ place x = n := by
    rw [div_eq_iff power]
    exact value
  rw [nearSize, digits, halfEven_intCast]
  exact value.symm

@[simp] theorem nearSize_zero : nearSize 0 = 0 := by
  simp [nearSize]

theorem nearSize_nonneg {x : ℚ} (nonneg : 0 ≤ x) : 0 ≤ nearSize x := by
  have digits : 0 ≤ halfEven (x / 2 ^ place x) := le_halfEven (by simpa using by positivity)
  unfold nearSize
  have cast : (0 : ℚ) ≤ halfEven (x / 2 ^ place x) := by exact_mod_cast digits
  positivity

/-- What is at most a power of two, of which the place is a part, is rounded to at most it. -/
theorem nearSize_le_zpow {x : ℚ} {e : ℤ} (below : x ≤ 2 ^ e) (part : place x ≤ e) :
    nearSize x ≤ 2 ^ e := by
  have power : (0 : ℚ) < 2 ^ place x := by positivity
  have split : (2 : ℚ) ^ e = ((2 ^ (e - place x).toNat : ℤ) : ℚ) * 2 ^ place x := by
    push_cast
    rw [← zpow_natCast, Int.toNat_of_nonneg (by omega), ← zpow_add₀ two_ne_zero]
    congr 1
    omega
  have digits : halfEven (x / 2 ^ place x) ≤ 2 ^ (e - place x).toNat := by
    apply halfEven_le
    rw [div_le_iff₀ power, ← split]
    exact below
  rw [nearSize, split]
  exact mul_le_mul_of_nonneg_right (by exact_mod_cast digits) power.le

/-- What is at least a power of two, of which the place is a part, is rounded to at least it. -/
theorem zpow_le_nearSize {x : ℚ} {e : ℤ} (above : 2 ^ e ≤ x) (part : place x ≤ e) :
    2 ^ e ≤ nearSize x := by
  have power : (0 : ℚ) < 2 ^ place x := by positivity
  have split : (2 : ℚ) ^ e = ((2 ^ (e - place x).toNat : ℤ) : ℚ) * 2 ^ place x := by
    push_cast
    rw [← zpow_natCast, Int.toNat_of_nonneg (by omega), ← zpow_add₀ two_ne_zero]
    congr 1
    omega
  have digits : 2 ^ (e - place x).toNat ≤ halfEven (x / 2 ^ place x) := by
    apply le_halfEven
    rw [le_div_iff₀ power, ← split]
    exact above
  rw [nearSize, split]
  exact mul_le_mul_of_nonneg_right (by exact_mod_cast digits) power.le

/-- Rounding keeps the order of sizes. Where the places differ, a power of two lies between the two
numbers that both are rounded to their side of. -/
theorem nearSize_mono {x y : ℚ} (nonneg : 0 ≤ x) (order : x ≤ y) : nearSize x ≤ nearSize y := by
  rcases nonneg.eq_or_lt with rfl | positive
  · rw [nearSize_zero]
    exact nearSize_nonneg order
  rcases (place_mono positive order).eq_or_lt with same | apart
  · have power : (0 : ℚ) < 2 ^ place y := by positivity
    have digits : halfEven (x / 2 ^ place y) ≤ halfEven (y / 2 ^ place y) :=
      halfEven_mono (div_le_div_of_nonneg_right order power.le)
    rw [nearSize, nearSize, same]
    exact mul_le_mul_of_nonneg_right (by exact_mod_cast digits) power.le
  · have sizeX : Int.log 2 x < Int.log 2 y := by
      unfold place at apart
      omega
    have placeY : place y = Int.log 2 y - 52 := by
      unfold place at apart ⊢
      omega
    have below : x ≤ 2 ^ Int.log 2 y := by
      have strict := (Int.lt_zpow_iff_log_lt (R := ℚ) one_lt_two positive).mpr sizeX
      exact_mod_cast strict.le
    have above : 2 ^ Int.log 2 y ≤ y := by
      exact_mod_cast Int.zpow_log_le_self (R := ℚ) one_lt_two (positive.trans_le order)
    exact (nearSize_le_zpow below (by omega)).trans (zpow_le_nearSize above (by omega))

/-! ### Signed numbers -/

@[simp] theorem near_zero : near 0 = 0 := by
  simp [near]

theorem near_of_nonneg {x : ℚ} (nonneg : 0 ≤ x) : near x = nearSize x := if_neg nonneg.not_gt

@[simp] theorem near_neg (x : ℚ) : near (-x) = -near x := by
  unfold near
  rcases lt_trichotomy x 0 with negative | rfl | positive
  · rw [if_pos negative, if_neg (by linarith), neg_neg]
  · simp
  · rw [if_neg positive.not_gt, if_pos (by linarith), neg_neg]

theorem near_nonneg {x : ℚ} (nonneg : 0 ≤ x) : 0 ≤ near x := by
  rw [near_of_nonneg nonneg]
  exact nearSize_nonneg nonneg

/-- **Rounding keeps the order.** -/
theorem near_mono {x y : ℚ} (order : x ≤ y) : near x ≤ near y := by
  rcases le_or_gt 0 x with nonneg | negative
  · rw [near_of_nonneg nonneg, near_of_nonneg (nonneg.trans order)]
    exact nearSize_mono nonneg order
  rcases le_or_gt 0 y with above | below
  · have lower : 0 ≤ near (-x) := near_nonneg (by linarith)
    rw [near_neg] at lower
    linarith [near_nonneg above]
  · have sizes : nearSize (-y) ≤ nearSize (-x) := nearSize_mono (by linarith) (by linarith)
    rw [near, near, if_pos negative, if_pos below]
    linarith

/-- **Rounding keeps what it can represent**: a number of at most 53 bits, from some place on. -/
theorem near_grid {n e : ℤ} (bits : |n| < 2 ^ 53) (least : -1074 ≤ e) :
    near (n * 2 ^ e) = n * 2 ^ e := by
  have power : (0 : ℚ) < 2 ^ e := by positivity
  -- A positive number is below the power of two behind its last digit, which bounds its place.
  have keeps : ∀ m : ℤ, 0 < m → m < 2 ^ 53 → near (m * 2 ^ e) = m * 2 ^ e := by
    intro m positive small
    have castPositive : (0 : ℚ) < m := by exact_mod_cast positive
    have castSmall : (m : ℚ) < 2 ^ (53 : ℤ) := by exact_mod_cast small
    have below : (m : ℚ) * 2 ^ e < 2 ^ (e + 53) := by
      rw [zpow_add₀ two_ne_zero, mul_comm ((2 : ℚ) ^ e)]
      exact mul_lt_mul_of_pos_right castSmall power
    have nonneg : (0 : ℚ) < m * 2 ^ e := mul_pos castPositive power
    rw [near_of_nonneg nonneg.le]
    exact nearSize_of_onGrid (onGrid_of_place_le m rfl (place_le nonneg below least))
  rcases lt_trichotomy n 0 with negative | rfl | positive
  · have opposite := keeps (-n) (by omega) (by rw [abs_of_neg negative] at bits; exact bits)
    push_cast at opposite
    rw [neg_mul, near_neg] at opposite
    linarith
  · simp
  · exact keeps n positive (by rw [abs_of_pos positive] at bits; exact bits)

/-- Powers of two are kept. -/
theorem near_zpow {e : ℤ} (least : -1074 ≤ e) : near (2 ^ e) = 2 ^ e := by
  have kept := near_grid (n := 1) (by norm_num) least
  rwa [Int.cast_one, one_mul] at kept

/-- **Whole numbers up to `2 ^ 53` are kept.** -/
theorem near_intCast {n : ℤ} (small : |n| ≤ 2 ^ 53) : near n = n := by
  rcases small.lt_or_eq with bits | edge
  · have kept := near_grid (e := 0) bits (by norm_num)
    rwa [zpow_zero, mul_one] at kept
  · have power : near (2 ^ (53 : ℤ)) = 2 ^ (53 : ℤ) := near_zpow (by norm_num)
    rcases abs_eq (by norm_num) |>.mp edge with rfl | rfl
    · exact_mod_cast power
    · push_cast
      rw [near_neg]
      exact_mod_cast congrArg Neg.neg power

theorem near_natCast {n : ℕ} (small : n ≤ 2 ^ 53) : near n = n := by
  have whole := near_intCast (n := n) (by rw [abs_of_nonneg (by positivity)]; exact_mod_cast small)
  exact_mod_cast whole

/-! ### Steps of large floats -/

/-- Above `2 ^ 53` a float does not change by less than one. -/
theorem near_add_small {m part : ℚ} (kept : near m = m) (large : 2 ^ (53 : ℤ) ≤ m)
    (nonneg : 0 ≤ part) (small : part < 1) : near (m + part) = m := by
  have positive : 0 < m := lt_of_lt_of_le (by norm_num) large
  obtain ⟨g, hg⟩ : ∃ g, place m = g := ⟨_, rfl⟩
  obtain ⟨n, hn⟩ : ∃ n, halfEven (m / 2 ^ g) = n := ⟨_, rfl⟩
  have grid : m = n * 2 ^ g := by
    rw [near_of_nonneg positive.le, nearSize, hg, hn] at kept
    exact kept.symm
  have power : (0 : ℚ) < 2 ^ g := by positivity
  have size : 53 ≤ Int.log 2 m :=
    (Int.zpow_le_iff_le_log one_lt_two positive).mp (by exact_mod_cast large)
  have step : 1 ≤ g ∧ Int.log 2 m = g + 52 := by
    unfold place at hg
    omega
  have twice : (2 : ℚ) ≤ 2 ^ g := by
    calc (2 : ℚ) = 2 ^ (1 : ℤ) := (zpow_one 2).symm
      _ ≤ 2 ^ g := zpow_le_zpow_right₀ one_le_two step.1
  have bits : n + 1 ≤ 2 ^ 53 := by
    have below := Int.lt_zpow_succ_log_self (R := ℚ) one_lt_two m
    rw [step.2, show g + 52 + 1 = 53 + g by ring] at below
    push_cast at below
    rw [zpow_add₀ two_ne_zero] at below
    have digits : (n : ℚ) < 2 ^ (53 : ℤ) := by
      apply lt_of_mul_lt_mul_right _ power.le
      rw [← grid]
      exact below
    have whole : n < 2 ^ 53 := by exact_mod_cast digits
    omega
  have same : place (m + part) = g := by
    apply le_antisymm
    · apply place_le (by linarith) _ (by omega)
      have castBits : (n : ℚ) + 1 ≤ 2 ^ (53 : ℤ) := by exact_mod_cast bits
      calc m + part < n * 2 ^ g + 2 ^ g := by rw [← grid]; linarith
        _ = (n + 1) * 2 ^ g := by ring
        _ ≤ 2 ^ (53 : ℤ) * 2 ^ g := mul_le_mul_of_nonneg_right castBits power.le
        _ = 2 ^ (g + 53) := by rw [add_comm, zpow_add₀ two_ne_zero]
    · rw [← hg]
      exact place_mono positive (by linarith)
  have split : (m + part) / 2 ^ g = n + part / 2 ^ g := by
    rw [add_div, grid, mul_div_cancel_right₀ _ power.ne']
  have half : part / 2 ^ g < 1 / 2 := by
    rw [div_lt_div_iff₀ power two_pos]
    linarith
  rw [near_of_nonneg (by linarith), nearSize, same, split,
    halfEven_add_of_lt_half n (by positivity) half, ← grid]

end LoadTest.Rounding
