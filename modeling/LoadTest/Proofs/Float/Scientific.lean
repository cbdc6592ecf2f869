/-
**Decimals are read as the nearest float.**

Few digits with a small exponent are read as a product or a quotient of two floats that are exact,
and is rounded once. All others are read from an exact mantissa or an exact quotient. So whichever
way is taken, the float that is read denotes the number of a float nearest to the decimal, or is
infinite if there is none.

* `Rounding.denotes_tenPower`: the powers of ten that are exact;
* `Rounding.level_ofScientific`: digits with an exponent;
* `Rounding.level_nearest`: a literal is read as the nearest float, also where it has so many digits,
  or such an exponent, that its size alone tells where it is;
* `Rounding.denotes_nearest_iff`: what it denotes.
-/

import LoadTest.Proofs.Float.Levels

namespace LoadTest.Rounding

open Float.Model Float.Model.UnpackedFloat Decimal

/-- **Powers of ten up to `10 ^ 22` are exact.** -/
theorem denotes_tenPower {n : ℕ} (small : n ≤ 22) :
    Denotes (Float.exactlyRepresentablePowersOfTen[n]!) (10 ^ n) := by
  have all : ∀ n ≤ 22, (Float.exactlyRepresentablePowersOfTen[n]!).isFinite = true ∧
      isSignNegative (Float.exactlyRepresentablePowersOfTen[n]!) = false ∧
      (Binary.ofBits (Float.exactlyRepresentablePowersOfTen[n]!).toBits).ratio.1 =
        10 ^ n * (Binary.ofBits (Float.exactlyRepresentablePowersOfTen[n]!).toBits).ratio.2 := by
    decide +kernel
  obtain ⟨finite, plus, ratio⟩ := all n small
  obtain ⟨p, denotes⟩ := isFinite_iff.1 finite
  obtain ⟨positive, value⟩ := denotes.ratio
  have cast : (0 : ℚ) < ((Binary.ofBits (Float.exactlyRepresentablePowersOfTen[n]!).toBits).ratio.2 :
    ℕ) := by exact_mod_cast positive
  rw [plus, ratio, Nat.cast_mul, mul_div_cancel_right₀ _ cast.ne'] at value
  have same : p = 10 ^ n := by
    rw [value]
    push_cast
    simp
  exact same ▸ denotes

/-- A decimal fraction that is not read as the quotient of two floats is read as an exact quotient. -/
theorem ofScientific_fraction {m n : ℕ} (some : m ≠ 0) (behind : n ≠ 0)
    (slow : ¬ (m < 2 ^ 53 ∧ n ≤ 22)) (most : n ≤ 2 ^ 11 + m.log2) :
    ∃ a, (Canonical a ∧ valueOf a = near (m / 10 ^ n)) ∧
      Float.ofScientific m true n = .ofModel (Float.Model.pack a) := by
  have positive : 0 < m := Nat.pos_of_ne_zero some
  have read : Float.ofScientific m true n = .ofModel (Float.Model.pack
      (UnpackedFloat.div .binary64 (.finite .positive m 0 positive)
        (.finite .positive (10 ^ n) 0 (Nat.pow_pos (by decide))))) := by
    unfold Float.ofScientific
    rw [dif_neg slow]
    have exponent : Int.negOfNat n = -(n : ℤ) := Int.negOfNat_eq
    show Float.ofModel (Float.Model.pack (UnpackedFloat.ofScientific .binary64 m
      (Int.negOfNat n))) = _
    rw [exponent]
    unfold UnpackedFloat.ofScientific
    have shallow : ¬ -(n : ℤ) > 2 ^ Format.binary64.exponentBits := by
      show ¬ -(n : ℤ) > 2 ^ 11
      omega
    have deep : ¬ -(n : ℤ) < -((2 ^ Format.binary64.exponentBits : ℤ) + m.log2) := by
      show ¬ -(n : ℤ) < -(2 ^ 11 + m.log2)
      omega
    have divisor : ∀ size (least : 0 < 10 ^ size), size = n →
        UnpackedFloat.finite .positive (10 ^ size) 0 least =
          .finite .positive (10 ^ n) 0 (Nat.pow_pos (by decide)) := by
      rintro size least rfl
      rfl
    rw [dif_neg some, if_neg shallow, if_neg deep, if_neg (by omega), divisor _ _ (by omega)]
  have result := div_near_finite .positive .positive 0 0 positive
    (Nat.pow_pos (n := n) (by decide : 0 < 10))
  have quotient : valueOf (.finite .positive m 0 positive) /
      valueOf (.finite .positive (10 ^ n) 0 (Nat.pow_pos (by decide))) = m / 10 ^ n := by
    rw [valueOf_finite, valueOf_finite]
    simp [signed]
  rw [quotient] at result
  exact ⟨_, result, read⟩

section Read

variable {m : ℕ}

/-- Digits that fit a mantissa are exact. -/
theorem denotes_digits (few : m < 2 ^ 53) : Denotes m.toUInt64.toFloat m := by
  have word : m.toUInt64.toNat = m := Nat.mod_eq_of_lt (by omega)
  have cast : |(m : ℚ)| ≤ 2 ^ (128 : ℤ) := by
    rw [Nat.abs_cast]
    exact_mod_cast few.le.trans (by norm_num)
  have read := denotes_word m.toUInt64 (by rw [word]; exact inRange_of_le cast)
  rwa [word, near_natCast few.le] at read

/-- What is read fast is a product or a quotient of two exact floats. -/
theorem ofScientific_fast {n : ℕ} (fast : m < 2 ^ 53 ∧ n ≤ 22) (fraction : Bool) :
    Float.ofScientific m fraction n =
      if fraction then m.toUInt64.toFloat / Float.exactlyRepresentablePowersOfTen[n]!
      else m.toUInt64.toFloat * Float.exactlyRepresentablePowersOfTen[n]! := by
  have size : Float.exactlyRepresentablePowersOfTen.size = 23 := rfl
  have inside : n < Float.exactlyRepresentablePowersOfTen.size := by omega
  unfold Float.ofScientific
  rw [dif_pos fast, getElem!_pos Float.exactlyRepresentablePowersOfTen n inside]

/-- What denotes a number stands where the number is. -/
theorem Denotes.level_reach {x : Float} {p : ℚ} (denotes : Denotes x p) :
    Rounding.level x = some (reach p) := by
  rw [denotes.level, reach_of_abs_lt denotes.abs_lt]

theorem level_whole {n : ℕ} (some : m ≠ 0) (most : n ≤ 2 ^ 11) :
    level (Float.ofScientific m false n) = .some (reach (near (m * 10 ^ n))) := by
  by_cases fast : m < 2 ^ 53 ∧ n ≤ 22
  · rw [ofScientific_fast fast]
    refine ((denotes_digits fast.1).mul (denotes_tenPower fast.2) (inRange_of_le ?_)).level_reach
    rw [abs_of_nonneg (by positivity)]
    have digits : (m : ℚ) ≤ 2 ^ 53 := by exact_mod_cast fast.1.le
    have power : (10 : ℚ) ^ n ≤ 10 ^ 22 := pow_le_pow_right₀ (by norm_num) fast.2
    calc (m : ℚ) * 10 ^ n ≤ 2 ^ 53 * 10 ^ 22 := mul_le_mul digits power (by positivity) (by positivity)
      _ ≤ 2 ^ (128 : ℤ) := by norm_num
  · obtain ⟨a, result, read⟩ := ofScientific_whole some fast most
    rw [read]
    exact level_pack result

theorem level_fraction {n : ℕ} (some : m ≠ 0) (behind : n ≠ 0) (most : n ≤ 2 ^ 11 + m.log2) :
    level (Float.ofScientific m true n) = .some (reach (near (m / 10 ^ n))) := by
  by_cases fast : m < 2 ^ 53 ∧ n ≤ 22
  · rw [ofScientific_fast fast]
    refine ((denotes_digits fast.1).div (denotes_tenPower fast.2) (by positivity)
      (inRange_of_le ?_)).level_reach
    rw [abs_of_nonneg (by positivity)]
    have digits : (m : ℚ) ≤ 2 ^ 53 := by exact_mod_cast fast.1.le
    calc (m : ℚ) / 10 ^ n ≤ m := div_le_self (by positivity) (one_le_pow₀ (by norm_num))
      _ ≤ 2 ^ (128 : ℤ) := digits.trans (by norm_num)
  · obtain ⟨a, result, read⟩ := ofScientific_fraction some behind fast most
    rw [read]
    exact level_pack result

/-- **Digits with an exponent are read as the nearest float.** -/
theorem level_ofScientific {e : ℤ} (some : m ≠ 0) (most : e ≤ 2 ^ 11)
    (least : -(2 ^ 11 + m.log2) ≤ e) :
    level (Float.ofScientific m (decide (e < 0)) e.natAbs) = .some (reach (near (m * 10 ^ e))) := by
  rcases lt_or_ge e 0 with negative | nonneg
  · have size : e = -(e.natAbs : ℤ) := by omega
    have value : (m : ℚ) * 10 ^ e = m / 10 ^ e.natAbs := by
      conv_lhs => rw [size, zpow_neg, zpow_natCast]
      rfl
    rw [value, decide_eq_true negative]
    exact level_fraction some (by omega) (by omega)
  · have size : e = (e.natAbs : ℤ) := by omega
    have value : (m : ℚ) * 10 ^ e = m * 10 ^ e.natAbs := by
      conv_lhs => rw [size, zpow_natCast]
    rw [value, decide_eq_false nonneg.not_gt]
    exact level_whole some (by omega)

end Read

/-! ### Literals -/

theorem denotes_zero : Denotes 0 0 := ⟨trivial, rfl⟩

/-- The number of digits of a whole number tells its size. -/
theorem toDigits_bounds {n : ℕ} (some : n ≠ 0) :
    10 ^ ((Nat.toDigits 10 n).length - 1) ≤ n ∧ n < 10 ^ (Nat.toDigits 10 n).length := by
  have any : 0 < (Nat.toDigits 10 n).length := Nat.length_toDigits_pos
  refine ⟨?_, (Nat.length_toDigits_le_iff (by decide) any).mp le_rfl⟩
  by_contra below
  rcases Nat.eq_zero_or_pos ((Nat.toDigits 10 n).length - 1) with single | more
  · rw [single, pow_zero] at below
    omega
  · have shorter := (Nat.length_toDigits_le_iff (by decide) more).mpr (not_le.mp below)
    omega

/-- Half of the least number is rounded to zero. -/
theorem near_half_least : near (2 ^ (-1075 : ℤ)) = 0 := by
  have fits : place (2 ^ (-1075 : ℤ)) = -1074 := by
    unfold place
    rw [show ((2 : ℚ) ^ (-1075 : ℤ)) = ((2 : ℕ) : ℚ) ^ (-1075 : ℤ) by norm_num,
      Int.log_zpow one_lt_two]
    rfl
  have half : (2 : ℚ) ^ (-1075 : ℤ) / 2 ^ (-1074 : ℤ) = 1 / 2 := by
    rw [← zpow_sub₀ two_ne_zero]
    norm_num
  have floor : ⌊(1 / 2 : ℚ)⌋ = 0 := by norm_num
  have rest : Int.fract (1 / 2 : ℚ) = 1 / 2 := by rw [Int.fract, floor]; norm_num
  rw [near_of_nonneg (by positivity), nearSize, fits, half, halfEven, rest, floor]
  norm_num

/-- Four hundred decimal places are beyond the range of floats. -/
theorem two_zpow_le_ten_zpow : (2 : ℚ) ^ (1075 : ℤ) ≤ 10 ^ (400 : ℤ) :=
  calc (2 : ℚ) ^ (1075 : ℤ) ≤ 2 ^ (3 * 400 : ℤ) := zpow_le_zpow_right₀ one_le_two (by norm_num)
    _ = (2 ^ (3 : ℤ)) ^ (400 : ℤ) := zpow_mul 2 3 400
    _ ≤ 10 ^ (400 : ℤ) := zpow_le_zpow_left₀ (by norm_num) (by positivity) (by norm_num)

section Nearest

variable {digits : ℕ} {exponent : ℤ} {p : ℚ}

/-- What has its first digit too far behind the point is rounded to zero. -/
theorem near_of_lead_low (some : digits ≠ 0)
    (low : exponent + (Nat.toDigits 10 digits).length < -400) : near (digits * 10 ^ exponent) = 0 := by
  have most : (digits : ℚ) ≤ 10 ^ ((Nat.toDigits 10 digits).length : ℤ) := by
    exact_mod_cast (toDigits_bounds some).2.le
  have below : (digits : ℚ) * 10 ^ exponent ≤ 2 ^ (-1075 : ℤ) := by
    calc (digits : ℚ) * 10 ^ exponent
        ≤ 10 ^ ((Nat.toDigits 10 digits).length : ℤ) * 10 ^ exponent :=
          mul_le_mul_of_nonneg_right most (by positivity)
      _ = 10 ^ (exponent + (Nat.toDigits 10 digits).length) := by
          rw [add_comm, zpow_add₀ (by norm_num)]
      _ ≤ 10 ^ (-400 : ℤ) := zpow_le_zpow_right₀ (by norm_num) low.le
      _ ≤ 2 ^ (-1075 : ℤ) := by
          rw [zpow_neg, zpow_neg]
          exact inv_anti₀ (two_zpow_pos 1075) two_zpow_le_ten_zpow
  exact le_antisymm (near_half_least ▸ near_mono below) (near_nonneg (by positivity))

/-- What has its first digit too far before the point is too large. -/
theorem near_of_lead_high (some : digits ≠ 0)
    (high : 400 < exponent + (Nat.toDigits 10 digits).length) :
    2 ^ (1024 : ℤ) ≤ near (digits * 10 ^ exponent) := by
  have any : 0 < (Nat.toDigits 10 digits).length := Nat.length_toDigits_pos
  have least : (10 : ℚ) ^ (((Nat.toDigits 10 digits).length : ℤ) - 1) ≤ digits := by
    have cast : (((Nat.toDigits 10 digits).length : ℤ) - 1) =
        (((Nat.toDigits 10 digits).length - 1 : ℕ) : ℤ) := by omega
    rw [cast]
    exact_mod_cast (toDigits_bounds some).1
  have above : (2 : ℚ) ^ (1024 : ℤ) ≤ digits * 10 ^ exponent := by
    calc (2 : ℚ) ^ (1024 : ℤ) ≤ 2 ^ (1075 : ℤ) := zpow_le_zpow_right₀ one_le_two (by norm_num)
      _ ≤ 10 ^ (400 : ℤ) := two_zpow_le_ten_zpow
      _ ≤ 10 ^ (((Nat.toDigits 10 digits).length : ℤ) - 1 + exponent) :=
          zpow_le_zpow_right₀ (by norm_num) (by omega)
      _ = 10 ^ (((Nat.toDigits 10 digits).length : ℤ) - 1) * 10 ^ exponent :=
          zpow_add₀ (by norm_num) _ _
      _ ≤ digits * 10 ^ exponent := mul_le_mul_of_nonneg_right least (by positivity)
  have large := near_mono above
  rwa [near_zpow (by norm_num)] at large

/-- **A literal is read as the float nearest to it.** -/
theorem level_nearest (digits : ℕ) (exponent : ℤ) :
    level (nearest digits exponent) = some (reach (near (digits * 10 ^ exponent))) := by
  have zero : level (Float.ofScientific 0 false 0) = some (reach 0) :=
    (denotes_zero : Denotes (Float.ofScientific 0 false 0) 0).level_reach
  unfold nearest
  dsimp only
  by_cases none : digits = 0
  · rw [if_pos (.inl none), none, Nat.cast_zero, zero_mul, near_zero]
    exact zero
  by_cases low : exponent + (Nat.toDigits 10 digits).length < -400
  · rw [if_pos (.inr low), near_of_lead_low none low]
    exact zero
  rw [if_neg (not_or.2 ⟨none, low⟩)]
  split_ifs with high
  · rw [reach, if_pos (near_of_lead_high none high)]
    rfl
  · have length : (Nat.toDigits 10 digits).length - 1 ≤ digits.log2 :=
      (Nat.le_log2 none).mpr ((Nat.pow_le_pow_left (by decide) _).trans (toDigits_bounds none).1)
    have any : 0 < (Nat.toDigits 10 digits).length := Nat.length_toDigits_pos
    exact level_ofScientific none (by omega) (by omega)

/-- **A literal denotes the number of the nearest float**, if there is one. -/
theorem denotes_nearest_iff : Denotes (nearest digits exponent) p ↔
    near (digits * 10 ^ exponent) = p ∧ |p| < 2 ^ (1024 : ℤ) := by
  rw [denotes_iff_level, level_nearest, Option.some.injEq, reach_eq_of_iff]

end Nearest

end LoadTest.Rounding
