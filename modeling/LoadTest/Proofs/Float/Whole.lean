/-
**Whole numbers near a float.**

The whole numbers near a float are computed from its bits, by exact arithmetic on its significand
and its exponent. For a finite float they are the whole numbers near the number that it denotes.

* `Rounding.Denotes.ratio`: the fraction that is read from the bits;
* `Rounding.NearestEven`, `Rounding.roundDiv_toEven_iff`: quotients rounded to the nearest number;
* `Rounding.Denotes.roundHalfAway`, `.floorNat`, `.floorWord`, `.ceilNat`: the whole numbers.
-/

import Mathlib.Algebra.Order.Floor.Semifield
import LoadTest.Proofs.Float.Denotes

namespace LoadTest.Rounding

open Float.Model Float.Model.UnpackedFloat Decimal

/-! ### The fields of the bits -/

section Fields

variable (bits : UInt64)

theorem unpackExponent_toNat : (@unpackExponent .binary64 bits.toBitVec).toNat =
    ((bits >>> 52) &&& 0x7FF).toNat := by
  have field : ((bits >>> 52) &&& 0x7FF).toNat = bits.toNat >>> 52 % 2 ^ 11 := by
    rw [UInt64.toNat_and, UInt64.toNat_shiftRight]
    exact Nat.and_two_pow_sub_one_eq_mod _ 11
  rw [field]
  unfold unpackExponent
  rw [BitVec.toNat_cast, BitVec.extractLsb_toNat]
  rfl

theorem unpackMantissa_toNat : (@unpackMantissa .binary64 bits.toBitVec).toNat =
    (bits &&& 0xFFFFFFFFFFFFF).toNat := by
  have field : (bits &&& 0xFFFFFFFFFFFFF).toNat = bits.toNat % 2 ^ 52 := by
    rw [UInt64.toNat_and]
    exact Nat.and_two_pow_sub_one_eq_mod _ 52
  rw [field]
  unfold unpackMantissa
  rw [BitVec.toNat_cast, BitVec.extractLsb_toNat]
  rfl

theorem unpackSign_eq : Sign.ofBitVec (@unpackSign .binary64 bits.toBitVec) =
    if bits >>> 63 = 1 then .negative else .positive := by
  have digit : (@unpackSign .binary64 bits.toBitVec).toNat = bits.toNat >>> 63 % 2 := by
    unfold unpackSign
    rw [BitVec.toNat_cast, BitVec.extractLsb_toNat]
    rfl
  have field : (bits >>> 63).toNat = bits.toNat >>> 63 := UInt64.toNat_shiftRight ..
  have small : bits.toNat >>> 63 < 2 := by
    rw [Nat.shiftRight_eq_div_pow]
    have bound := bits.toNat_lt
    omega
  unfold Sign.ofBitVec
  by_cases minus : bits >>> 63 = 1
  · have one : bits.toNat >>> 63 = 1 := by
      rw [← field, minus]
      rfl
    rw [if_pos minus, if_neg]
    intro zero
    have none : (@unpackSign .binary64 bits.toBitVec).toNat = 0 :=
      congrArg BitVec.toNat zero
    omega
  · have none : bits.toNat >>> 63 = 0 := by
      by_contra some
      apply minus
      apply UInt64.toNat_inj.mp
      rw [field]
      show bits.toNat >>> 63 = 1
      omega
    rw [if_neg minus, if_pos]
    apply BitVec.eq_of_toNat_eq
    rw [digit, none]
    rfl

theorem ofBits_of_eq_zero {bits : UInt64} (power : ((bits >>> 52) &&& 0x7FF).toNat = 0) :
    Binary.ofBits bits = ⟨(bits &&& 0xFFFFFFFFFFFFF).toNat, -1074, false⟩ := if_pos power

theorem ofBits_of_ne_zero {bits : UInt64} (power : ((bits >>> 52) &&& 0x7FF).toNat ≠ 0) :
    Binary.ofBits bits = ⟨0x10000000000000 + (bits &&& 0xFFFFFFFFFFFFF).toNat,
      (((bits >>> 52) &&& 0x7FF).toNat : ℤ) - 1075,
      (bits &&& 0xFFFFFFFFFFFFF).toNat = 0 && 1 < ((bits >>> 52) &&& 0x7FF).toNat⟩ := if_neg power

end Fields

/-- A finite float is the signed fraction that is read from its bits. -/
theorem valueOf_bits {x : Float} (canonical : Canonical x.toModel.unpack) :
    valueOf x.toModel.unpack = signed (if x.toBits >>> 63 = 1 then .negative else .positive)
      ((Binary.ofBits x.toBits).significand * 2 ^ (Binary.ofBits x.toBits).exponent) := by
  rw [← unpackSign_eq]
  have exponent := unpackExponent_toNat x.toBits
  have mantissa := unpackMantissa_toNat x.toBits
  change Canonical (UnpackedFloat.unpack .binary64 x.toBits.toBitVec) at canonical
  change valueOf (UnpackedFloat.unpack .binary64 x.toBits.toBitVec) = _
  rcases @unpack_cases _ _ _ x.toBits.toBitVec rfl rfl rfl with missing | infinite |
    ⟨first, zero, read⟩ | ⟨first, _, read⟩ | ⟨later, _, read⟩
  · rw [missing] at canonical
    exact canonical.elim
  · rw [infinite] at canonical
    exact canonical.elim
  · have power : ((x.toBits >>> 52) &&& 0x7FF).toNat = 0 := by
      rw [← exponent, first]
      rfl
    have digits : (x.toBits &&& 0xFFFFFFFFFFFFF).toNat = 0 := by
      rw [← mantissa, zero]
      rfl
    rw [read, ofBits_of_eq_zero power, digits, Nat.cast_zero, zero_mul, signed_zero]
    rfl
  · have power : ((x.toBits >>> 52) &&& 0x7FF).toNat = 0 := by
      rw [← exponent, first]
      rfl
    rw [read, ofBits_of_eq_zero power, ← mantissa, valueOf_finite]
  · have power : ((x.toBits >>> 52) &&& 0x7FF).toNat ≠ 0 := by
      intro none
      apply later
      apply BitVec.eq_of_toNat_eq
      rw [exponent, none]
      rfl
    have digits : (1#1 ++ @unpackMantissa .binary64 x.toBits.toBitVec).toNat =
        0x10000000000000 + (x.toBits &&& 0xFFFFFFFFFFFFF).toNat := by
      rw [BitVec.toNat_append, ← mantissa, ← Nat.shiftLeft_add_eq_or_of_lt (BitVec.isLt _)]
      rfl
    rw [read, ofBits_of_ne_zero power, ← exponent, valueOf_finite, digits]

/-! ### Numbers near a float -/

theorem isNaN_of_canonical {x : Float} (canonical : Canonical x.toModel.unpack) :
    x.isNaN = false ∧ x.isInf = false := by
  show x.toModel.unpack.isNaN = false ∧ x.toModel.unpack.isInf = false
  cases unpacked : x.toModel.unpack with
  | infinity _ =>
    rw [unpacked] at canonical
    exact canonical.elim
  | notANumber =>
    rw [unpacked] at canonical
    exact canonical.elim
  | zero _ => exact ⟨rfl, rfl⟩
  | finite _ _ _ _ => exact ⟨rfl, rfl⟩

section Numbers

variable {x : Float} {q : ℚ}

/-- The fraction of the bits is the size of the number, and the sign is its own. -/
theorem Denotes.ratio (denotes : Denotes x q) :
    0 < (Binary.ofBits x.toBits).ratio.2 ∧
      q = (if isSignNegative x then (-1 : ℚ) else 1) *
        ((Binary.ofBits x.toBits).ratio.1 / (Binary.ofBits x.toBits).ratio.2) := by
  have value := valueOf_bits denotes.canonical
  rw [denotes.value] at value
  have positive : 0 < (Binary.ofBits x.toBits).ratio.2 := Nat.two_pow_pos _
  refine ⟨positive, ?_⟩
  generalize Binary.ofBits x.toBits = binary at value
  have fraction : ((binary.ratio.1 : ℕ) : ℚ) / (binary.ratio.2 : ℕ) =
      binary.significand * 2 ^ binary.exponent := by
    show ((binary.significand * 2 ^ binary.exponent.toNat : ℕ) : ℚ) /
      ((2 ^ (-binary.exponent).toNat : ℕ) : ℚ) = _
    push_cast
    rw [mul_div_assoc, ← zpow_natCast, ← zpow_natCast, ← zpow_sub₀ two_ne_zero]
    congr 2
    omega
  rw [fraction, value]
  unfold isSignNegative
  by_cases minus : x.toBits >>> 63 = 1
  · rw [if_pos minus, if_pos (decide_eq_true minus)]
    exact (neg_one_mul _).symm
  · rw [if_neg minus, if_neg (by simpa using minus)]
    exact (one_mul _).symm

/-- A number that is not negative is the fraction of its bits. -/
theorem Denotes.ratio_of_nonneg (denotes : Denotes x q) (nonneg : 0 ≤ q) :
    0 < (Binary.ofBits x.toBits).ratio.2 ∧
      q = (Binary.ofBits x.toBits).ratio.1 / (Binary.ofBits x.toBits).ratio.2 := by
  obtain ⟨positive, value⟩ := denotes.ratio
  refine ⟨positive, ?_⟩
  split_ifs at value with minus
  · have size : (0 : ℚ) ≤ (Binary.ofBits x.toBits).ratio.1 / (Binary.ofBits x.toBits).ratio.2 := by
      positivity
    linarith
  · rwa [one_mul] at value

/-- A quotient rounded to the nearest whole number, a half going up. -/
theorem roundDiv_up (num den : ℕ) (positive : 0 < den) :
    roundDiv num den .up = ⌊(num : ℚ) / den + 1 / 2⌋₊ := by
  have cast : (den : ℚ) ≠ 0 := by exact_mod_cast positive.ne'
  have double : (num : ℚ) / den + 1 / 2 = (2 * num + den : ℕ) / (2 * den : ℕ) := by
    push_cast
    field_simp
  have whole : den * (num / den) + num % den = num := Nat.div_add_mod num den
  have below : num % den < den := Nat.mod_lt _ positive
  have nonneg : 0 ≤ num % den := Nat.zero_le _
  rw [double, Nat.floor_div_eq_div]
  symm
  unfold roundDiv
  rcases order : compare (2 * (num % den)) den with _ | _ | _
  · rw [Nat.compare_eq_lt] at order
    apply Nat.div_eq_of_lt_le
    · show num / den * (2 * den) ≤ 2 * num + den
      linarith
    · show 2 * num + den < (num / den + 1) * (2 * den)
      linarith
  · rw [Nat.compare_eq_eq] at order
    apply Nat.div_eq_of_lt_le
    · show (num / den + 1) * (2 * den) ≤ 2 * num + den
      linarith
    · show 2 * num + den < (num / den + 1 + 1) * (2 * den)
      linarith
  · rw [Nat.compare_eq_gt] at order
    apply Nat.div_eq_of_lt_le
    · show (num / den + 1) * (2 * den) ≤ 2 * num + den
      linarith
    · show 2 * num + den < (num / den + 1 + 1) * (2 * den)
      linarith

/-- **A nearest whole number**, the even one of two that are equally near. -/
def NearestEven (q : ℚ) (n : ℕ) : Prop := |q - n| ≤ 1 / 2 ∧ (|q - n| = 1 / 2 → Even n)

/-- There is only one. -/
theorem NearestEven.unique {n m : ℕ} (first : NearestEven q n) (second : NearestEven q m) :
    n = m := by
  wlog order : n ≤ m generalizing n m
  · exact (this second first (le_of_not_ge order)).symm
  obtain ⟨low, -⟩ := abs_le.1 second.1
  obtain ⟨-, high⟩ := abs_le.1 first.1
  have close : (m : ℚ) ≤ n + 1 := by linarith
  rcases Nat.eq_or_lt_of_le order with same | apart
  · exact same
  · -- They lie half a unit below and above the number, and two neighbours are not both even.
    obtain rfl : m = n + 1 := le_antisymm (by exact_mod_cast close) apart
    push_cast at low
    have half : q - n = 1 / 2 := by linarith
    have even : Even n := first.2 (by rw [half]; norm_num)
    have other : q - (n + 1 : ℕ) = -(1 / 2) := by
      push_cast
      linarith
    have next : Even (n + 1) := second.2 (by rw [other]; norm_num)
    exact absurd even (Nat.even_add_one.1 next)

/-- A quotient rounded to the nearest whole number, a half going to the even one. -/
theorem roundDiv_toEven_iff {num den n : ℕ} (positive : 0 < den) :
    roundDiv num den .toEven = n ↔ NearestEven ((num : ℚ) / den) n := by
  have nearest : NearestEven ((num : ℚ) / den) (roundDiv num den .toEven) := by
    have cast : (0 : ℚ) < den := by exact_mod_cast positive
    have whole : (num : ℚ) / den = (num / den : ℕ) + (num % den : ℕ) / den := by
      have parts : (num : ℚ) = den * (num / den : ℕ) + (num % den : ℕ) := by
        exact_mod_cast (Nat.div_add_mod num den).symm
      rw [parts, add_div, mul_div_cancel_left₀ _ cast.ne']
    have nonneg : (0 : ℚ) ≤ (num % den : ℕ) / den := by positivity
    unfold roundDiv
    dsimp only
    rw [whole]
    generalize (num / den : ℕ) = quotient
    generalize part : ((num % den : ℕ) : ℚ) / den = fraction at nonneg
    rcases order : compare (2 * (num % den)) den with _ | _ | _
    · rw [Nat.compare_eq_lt] at order
      have below : fraction < 1 / 2 := by
        rw [← part, div_lt_div_iff₀ cast two_pos, one_mul, mul_comm]
        exact_mod_cast order
      have size : |(quotient : ℚ) + fraction - quotient| = fraction := by
        rw [add_sub_cancel_left, abs_of_nonneg nonneg]
      exact ⟨size.trans_le below.le, fun half => absurd (size.symm.trans half) below.ne⟩
    · rw [Nat.compare_eq_eq] at order
      have half : fraction = 1 / 2 := by
        rw [← part, div_eq_div_iff cast.ne' two_ne_zero, one_mul, mul_comm]
        exact_mod_cast order
      split_ifs with even
      · refine ⟨?_, fun _ => Nat.even_iff.2 even⟩
        rw [add_sub_cancel_left, half, abs_of_pos one_half_pos]
      · refine ⟨?_, fun _ => Nat.even_add_one.2 (by rwa [Nat.even_iff])⟩
        push_cast
        rw [half, add_sub_add_left_eq_sub]
        norm_num
    · rw [Nat.compare_eq_gt] at order
      have above : 1 / 2 < fraction := by
        rw [← part, div_lt_div_iff₀ two_pos cast, one_mul, mul_comm]
        exact_mod_cast order
      have below : fraction < 1 := by
        rw [← part, div_lt_one cast]
        exact_mod_cast Nat.mod_lt num positive
      have size : |(quotient : ℚ) + fraction - (quotient + 1 : ℕ)| = 1 - fraction := by
        push_cast
        rw [add_sub_add_left_eq_sub, abs_of_neg (by linarith)]
        ring
      exact ⟨by rw [size]; linarith, fun half => by rw [size] at half; linarith⟩
  exact ⟨fun same => same ▸ nearest, nearest.unique⟩

/-- **The nearest whole number of 64 bits**, a half going up. -/
theorem Denotes.roundHalfAway (denotes : Denotes x q) :
    Decimal.roundHalfAway x = min ⌊q + 1 / 2⌋₊ maxWord := by
  obtain ⟨notNaN, notInf⟩ := isNaN_of_canonical denotes.canonical
  obtain ⟨positive, value⟩ := denotes.ratio
  have nonneg : (0 : ℚ) ≤ ((Binary.ofBits x.toBits).ratio.1 : ℕ) /
      ((Binary.ofBits x.toBits).ratio.2 : ℕ) := by positivity
  unfold Decimal.roundHalfAway
  rw [notNaN, notInf, Bool.false_or]
  by_cases minus : isSignNegative x = true
  · rw [if_pos minus] at value ⊢
    have low : q + 1 / 2 < 1 := by linarith
    rw [Nat.floor_eq_zero.mpr low, Nat.zero_min]
  · rw [if_neg minus, one_mul] at value
    rw [if_neg minus, if_neg Bool.false_ne_true, value, ← roundDiv_up _ _ positive]

/-- **The largest whole number not above a float.** -/
theorem Denotes.floorNat (denotes : Denotes x q) : Decimal.floorNat x = ⌊q⌋₊ := by
  obtain ⟨notNaN, notInf⟩ := isNaN_of_canonical denotes.canonical
  obtain ⟨positive, value⟩ := denotes.ratio
  have nonneg : (0 : ℚ) ≤ ((Binary.ofBits x.toBits).ratio.1 : ℕ) /
      ((Binary.ofBits x.toBits).ratio.2 : ℕ) := by positivity
  unfold Decimal.floorNat
  rw [notNaN, notInf, Bool.false_or, Bool.or_false]
  by_cases minus : isSignNegative x = true
  · rw [if_pos minus] at value ⊢
    have low : q < 1 := by linarith
    rw [Nat.floor_eq_zero.mpr low]
  · rw [if_neg minus, one_mul] at value
    rw [if_neg minus, value, Nat.floor_div_eq_div]

/-- **The least whole number not below a float.** -/
theorem Denotes.ceilNat (denotes : Denotes x q) : Decimal.ceilNat x = ⌈q⌉₊ := by
  obtain ⟨notNaN, notInf⟩ := isNaN_of_canonical denotes.canonical
  obtain ⟨positive, value⟩ := denotes.ratio
  have cast : (0 : ℚ) < ((Binary.ofBits x.toBits).ratio.2 : ℕ) := by exact_mod_cast positive
  have nonneg : (0 : ℚ) ≤ ((Binary.ofBits x.toBits).ratio.1 : ℕ) /
      ((Binary.ofBits x.toBits).ratio.2 : ℕ) := by positivity
  unfold Decimal.ceilNat
  rw [notNaN, notInf, Bool.false_or, Bool.or_false]
  by_cases minus : isSignNegative x = true
  · rw [if_pos minus] at value ⊢
    have low : q ≤ 0 := by linarith
    rw [Nat.ceil_eq_zero.mpr low]
  · rw [if_neg minus, one_mul] at value
    rw [if_neg minus, value]
    refine eq_of_forall_ge_iff fun bound => ?_
    rw [Nat.ceil_le, div_le_iff₀ cast, Nat.div_le_iff_le_mul_add_pred positive]
    norm_cast
    rw [Nat.mul_comm]
    omega

theorem Denotes.floorWord (denotes : Denotes x q) : Decimal.floorWord x = min ⌊q⌋₊ maxWord := by
  obtain ⟨-, notInf⟩ := isNaN_of_canonical denotes.canonical
  unfold Decimal.floorWord
  rw [notInf, Bool.false_and, if_neg Bool.false_ne_true, denotes.floorNat]

end Numbers

end LoadTest.Rounding
