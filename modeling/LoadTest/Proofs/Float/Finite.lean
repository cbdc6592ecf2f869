/-
**Finite floats.**

A float is finite exactly if it denotes a number, and then this is below `2 ^ 1024`. The powers of
ten up to `10 ^ 308` are finite floats, too.

* `Rounding.isFinite_iff`: what is finite denotes a number;
* `Rounding.Denotes.abs_lt`: the numbers of finite floats are bounded;
* `Rounding.Denotes.neg`: a finite float with the other sign;
* `Rounding.denotes_power`: powers of ten.
-/

import LoadTest.Json.Numeral
import LoadTest.Proofs.Float.Order

namespace LoadTest.Rounding

open Float.Model Float.Model.UnpackedFloat

section Finite

variable {x : Float} {p : ℚ}

/-- **A float is finite exactly if it denotes a number.** -/
theorem isFinite_iff : x.isFinite = true ↔ ∃ p, Denotes x p := by
  show x.toModel.unpack.isFinite = true ↔ _
  constructor
  · intro finite
    rcases canonical_unpack x with missing | ⟨sign, infinite⟩ | canonical
    · rw [missing] at finite
      contradiction
    · rw [infinite] at finite
      contradiction
    · exact ⟨_, canonical, rfl⟩
  · rintro ⟨p, canonical, -⟩
    cases unpacked : x.toModel.unpack with
    | infinity _ =>
      rw [unpacked] at canonical
      exact canonical.elim
    | notANumber =>
      rw [unpacked] at canonical
      exact canonical.elim
    | zero _ => rfl
    | finite _ _ _ _ => rfl

/-- What denotes no number is infinite or no number. -/
theorem denotes_or (x : Float) : (∃ p, Denotes x p) ∨ (x.isNaN || x.isInf) = true := by
  rcases canonical_unpack x with missing | ⟨sign, infinite⟩ | canonical
  · refine .inr (Bool.or_eq_true_iff.2 (.inl ?_))
    show x.toModel.unpack.isNaN = true
    rw [missing]
    rfl
  · refine .inr (Bool.or_eq_true_iff.2 (.inr ?_))
    show x.toModel.unpack.isInf = true
    rw [infinite]
    rfl
  · exact .inl ⟨_, canonical, rfl⟩

theorem abs_signed (s : Sign) (y : ℚ) : |signed s y| = |y| := by
  cases s
  · exact abs_neg y
  · rfl

theorem two_zpow_pos (t : ℤ) : (0 : ℚ) < 2 ^ t := by positivity

theorem magnitude_lt_top {m : ℕ} {e : ℤ} (bits : m < 2 ^ 53) (most : e ≤ 971) :
    |(m : ℚ) * 2 ^ e| < 2 ^ (1024 : ℤ) := by
  have power := two_zpow_pos e
  have mantissa : (m : ℚ) < 2 ^ (53 : ℤ) := by exact_mod_cast bits
  rw [abs_of_nonneg (mul_nonneg (Nat.cast_nonneg m) power.le)]
  calc (m : ℚ) * 2 ^ e < 2 ^ (53 : ℤ) * 2 ^ e := mul_lt_mul_of_pos_right mantissa power
    _ = 2 ^ (53 + e) := (zpow_add₀ two_ne_zero _ _).symm
    _ ≤ 2 ^ (1024 : ℤ) := zpow_le_zpow_right₀ one_le_two (by omega)

/-- **The number of a finite float is below `2 ^ 1024`.** -/
theorem Denotes.abs_lt (denotes : Denotes x p) : |p| < 2 ^ (1024 : ℤ) := by
  obtain ⟨canonical, rfl⟩ := denotes
  change Canonical (UnpackedFloat.unpack .binary64 x.toBits.toBitVec) at canonical
  show |valueOf (UnpackedFloat.unpack .binary64 x.toBits.toBitVec)| < _
  cases unpacked : UnpackedFloat.unpack .binary64 x.toBits.toBitVec with
  | notANumber | infinity _ | zero _ => exact abs_zero.trans_lt (two_zpow_pos 1024)
  | finite sign m e positive =>
    rw [unpacked] at canonical
    rw [valueOf_finite, abs_signed]
    refine magnitude_lt_top canonical.1 ?_
    obtain ⟨exponent, field⟩ : ∃ exponent : BitVec 11,
        @unpackExponent .binary64 x.toBits.toBitVec = exponent := ⟨_, rfl⟩
    have top : exponent.toNat < 2048 := exponent.isLt
    by_cases last : exponent = -1#11
    · -- The last exponent is that of infinity and of what is no number.
      rw [unpack_fields _ rfl field rfl, if_pos last] at unpacked
      by_cases whole : @unpackMantissa .binary64 x.toBits.toBitVec = 0#52
      · rw [if_pos whole] at unpacked
        contradiction
      · rw [if_neg whole] at unpacked
        contradiction
    have below : exponent.toNat ≠ 2047 := fun same => last (BitVec.eq_of_toNat_eq same)
    rcases unpack_cases _ rfl field rfl with
      other | other | ⟨-, -, other⟩ | ⟨-, _, other⟩ | ⟨-, _, other⟩
    · exact absurd (unpacked.symm.trans other) UnpackedFloat.noConfusion
    · exact absurd (unpacked.symm.trans other) UnpackedFloat.noConfusion
    · exact absurd (unpacked.symm.trans other) UnpackedFloat.noConfusion
    · injection unpacked.symm.trans other with _ _ same
      omega
    · injection unpacked.symm.trans other with _ _ same
      omega

/-- **A finite float with the other sign** denotes the number with the other sign. -/
theorem Denotes.neg (denotes : Denotes x p) : Denotes (-x) (-p) := by
  have small := denotes.abs_lt
  obtain ⟨canonical, rfl⟩ := denotes
  have other : Canonical x.toModel.unpack.neg := by
    cases unpacked : x.toModel.unpack <;> rw [unpacked] at canonical <;> exact canonical
  have value := valueOf_neg x.toModel.unpack
  have back : (Float.Model.pack x.toModel.unpack.neg).unpack = x.toModel.unpack.neg := by
    apply unpack_pack other
    rwa [value, abs_neg]
  show Denotes (.ofModel (Float.Model.pack x.toModel.unpack.neg)) _
  exact ⟨by rw [back]; exact other, by rw [back]; exact value⟩

/-- What denotes a number denotes the other one with the other sign, and nothing else does. -/
theorem denotes_neg_iff : Denotes (-x) p ↔ Denotes x (-p) := by
  constructor
  · intro denotes
    have canonical : Canonical (Float.Model.pack x.toModel.unpack.neg).unpack := denotes.canonical
    rcases canonical_unpack x with missing | ⟨sign, infinite⟩ | canonical
    · rw [missing] at canonical
      exact canonical.elim
    · rw [infinite] at canonical
      cases sign <;> exact canonical.elim
    · have own : Denotes x (valueOf x.toModel.unpack) := ⟨canonical, rfl⟩
      have same := own.neg.value.symm.trans denotes.value
      rwa [← same, neg_neg]
  · intro denotes
    have other := denotes.neg
    rwa [neg_neg] at other

end Finite

/-! ### Powers of ten -/

/-- The largest finite float is above the powers of ten. -/
theorem near_power_lt {n : ℕ} (most : n ≤ 308) : |near (10 ^ n)| < 2 ^ (1024 : ℤ) := by
  have top : near (((2 ^ 53 - 1 : ℕ) : ℤ) * 2 ^ (971 : ℤ)) =
      ((2 ^ 53 - 1 : ℕ) : ℤ) * 2 ^ (971 : ℤ) :=
    near_grid (by decide) (by norm_num)
  have below : (10 : ℚ) ^ n ≤ ((2 ^ 53 - 1 : ℕ) : ℤ) * 2 ^ (971 : ℤ) := by
    have cast : ∀ i k : ℕ, 10 ^ i ≤ (2 ^ 53 - 1) * 2 ^ k →
        (10 : ℚ) ^ i ≤ ((2 ^ 53 - 1 : ℕ) : ℤ) * 2 ^ (k : ℤ) := fun i k large => by
      exact_mod_cast large
    exact (pow_le_pow_right₀ (by norm_num) most).trans (cast 308 971 (by decide +kernel))
  have bound : near (10 ^ n) ≤ ((2 ^ 53 - 1 : ℕ) : ℤ) * 2 ^ (971 : ℤ) := by
    rw [← top]
    exact near_mono below
  rw [abs_of_nonneg (near_nonneg (pow_nonneg (by norm_num) n))]
  refine bound.trans_lt ?_
  rw [Int.cast_natCast]
  exact (le_abs_self _).trans_lt (magnitude_lt_top (by decide) le_rfl)

/-- A power of ten beyond those that are kept as they are is rounded once. -/
theorem denotes_large {n : ℕ} (large : 22 < n) (most : n ≤ 308) :
    Denotes (Float.ofScientific 1 false n) (near (10 ^ n)) := by
  obtain ⟨a, result, read⟩ :=
    ofScientific_whole (m := 1) one_ne_zero (fun both => both.2.not_gt large) (by omega)
  rw [Nat.cast_one, one_mul] at result
  rw [read]
  exact denotes_pack_of_lt result (near_power_lt most)

/-- **The powers of ten are finite**, and none is below one. -/
theorem denotes_power {n : ℕ} (most : n ≤ 308) :
    ∃ q, Denotes (Json.Numeral.power n) q ∧ 1 ≤ q := by
  by_cases small : n ≤ 22
  · have all : ∀ n ≤ 22, (Json.Numeral.power n).isFinite = true ∧
        Float.ofBits 0x3FF0000000000000 ≤ Json.Numeral.power n := by
      decide +kernel
    obtain ⟨finite, above⟩ := all n small
    obtain ⟨q, denotes⟩ := isFinite_iff.1 finite
    exact ⟨q, denotes, (denotes_one.le_iff denotes).1 above⟩
  · have power : Json.Numeral.power n = Float.ofScientific 1 false n := by
      unfold Json.Numeral.power Decimal.nearest
      have low : ¬ (n : ℤ) + (Nat.toDigits 10 1).length < -400 := by omega
      have high : ¬ 400 < (n : ℤ) + (Nat.toDigits 10 1).length := by
        show ¬ 400 < (n : ℤ) + (1 : ℕ)
        omega
      have sign : decide ((n : ℤ) < 0) = false := decide_eq_false (by omega)
      dsimp only
      rw [if_neg (not_or.2 ⟨one_ne_zero, low⟩), if_neg high, sign]
      rfl
    refine ⟨_, power ▸ denotes_large (by omega) most, ?_⟩
    have one : near 1 = 1 := by exact_mod_cast near_natCast (n := 1) (by decide)
    rw [← one]
    exact near_mono (one_le_pow₀ (by norm_num))

end LoadTest.Rounding
