/-
**The rational number that a float denotes.**

The model of a float packs an unpacked float into 64 bits and unpacks it again for the next
operation. A canonical float below `2 ^ 1024` comes back from the bits as it was, so the laws of
unpacked floats are laws of floats: as long as nothing overflows, every operation gives the number
of a float nearest to the exact result.

* `Rounding.Denotes`: a float is finite, and stands for a rational number;
* `Rounding.unpack_pack`: what is packed comes back;
* `Rounding.Denotes.add`, `.sub`, `.mul`, `.div`, `Rounding.denotes_ofNat`: the operations.
-/

import LoadTest.Proofs.Float.Unpacked
import LoadTest.Scalar

namespace LoadTest.Rounding

open Float.Model Float.Model.UnpackedFloat

/-- The number is in range: rounded, it is below `2 ^ 1024`. -/
def InRange (x : ℚ) : Prop := |x| ≤ 2 ^ (1023 : ℤ)

theorem inRange_of_le {x : ℚ} (bound : |x| ≤ 2 ^ (128 : ℤ)) : InRange x :=
  bound.trans (zpow_le_zpow_right₀ one_le_two (by norm_num))

/-- **A float is finite and stands for a number.** -/
structure Denotes (x : Float) (value : ℚ) : Prop where
  canonical : Canonical x.toModel.unpack
  value : valueOf x.toModel.unpack = value

/-! ### Packing -/

section Components

variable (s : Sign) {exponent : BitVec 11} {mantissa : BitVec 52}

theorem unpackSign_components {format : Format} (exponent : BitVec format.exponentBits)
    (mantissa : BitVec format.mantissaBitsWithoutImplicit) :
    Sign.ofBitVec (unpackSign (packComponents format s exponent mantissa)) = s := by
  have bit : unpackSign (packComponents format s exponent mantissa) = s.toBitVec := by
    have read : unpackSign (packComponents format s exponent mantissa) =
      ((s.toBitVec ++ exponent ++ mantissa).extractLsb
        (format.mantissaBitsWithoutImplicit + format.exponentBits)
        (format.mantissaBitsWithoutImplicit + format.exponentBits)).cast (by omega) := rfl
    rw [read]
    ext i inside
    obtain rfl : i = 0 := by omega
    simp [BitVec.getElem_append, BitVec.getLsbD_append]
  rw [bit]
  cases s <;> rfl

theorem lead_pos (mantissa : BitVec 52) : 0 < (1#1 ++ mantissa).toNat := by
  rw [BitVec.toNat_append]
  exact Nat.lt_of_lt_of_le (by decide) Nat.left_le_or

/-- What bits stand for, by their three fields. -/
theorem unpack_fields {bits : BitVec 64} (sign : Sign.ofBitVec (@unpackSign .binary64 bits) = s)
    (field : @unpackExponent .binary64 bits = exponent)
    (digits : @unpackMantissa .binary64 bits = mantissa) :
    UnpackedFloat.unpack .binary64 bits =
      if exponent = -1#11 then (if mantissa = 0#52 then .infinity s else .notANumber)
      else if exponent = 0#11 then
        if zero : mantissa = 0#52 then .zero s
        else .finite s mantissa.toNat (exponent.toNat - 1075 + 1)
          (Nat.pos_of_ne_zero fun none => zero (BitVec.eq_of_toNat_eq none))
      else .finite s (1#1 ++ mantissa).toNat (exponent.toNat - 1075) (lead_pos mantissa) := by
  subst sign field digits
  rfl

/-- Bits stand for no number, an infinite one, zero, a number below all normal ones, or one of
those. -/
theorem unpack_cases {bits : BitVec 64} (sign : Sign.ofBitVec (@unpackSign .binary64 bits) = s)
    (field : @unpackExponent .binary64 bits = exponent)
    (digits : @unpackMantissa .binary64 bits = mantissa) :
    UnpackedFloat.unpack .binary64 bits = .notANumber ∨
      UnpackedFloat.unpack .binary64 bits = .infinity s ∨
      (exponent = 0#11 ∧ mantissa = 0#52 ∧ UnpackedFloat.unpack .binary64 bits = .zero s) ∨
      (exponent = 0#11 ∧ ∃ positive,
        UnpackedFloat.unpack .binary64 bits = .finite s mantissa.toNat (-1074) positive) ∨
      (exponent ≠ 0#11 ∧ ∃ positive, UnpackedFloat.unpack .binary64 bits =
        .finite s (1#1 ++ mantissa).toNat (exponent.toNat - 1075) positive) := by
  rw [unpack_fields s sign field digits]
  by_cases last : exponent = -1#11
  · rw [if_pos last]
    by_cases whole : mantissa = 0#52
    · rw [if_pos whole]
      exact .inr (.inl rfl)
    · rw [if_neg whole]
      exact .inl rfl
  · rw [if_neg last]
    by_cases first : exponent = 0#11
    · subst first
      rw [if_pos rfl]
      by_cases zero : mantissa = 0#52
      · rw [dif_pos zero]
        exact .inr (.inr (.inl ⟨rfl, zero, rfl⟩))
      · rw [dif_neg zero]
        exact .inr (.inr (.inr (.inl ⟨rfl, _, rfl⟩)))
    · rw [if_neg first]
      exact .inr (.inr (.inr (.inr ⟨first, _, rfl⟩)))

theorem unpack_zero : UnpackedFloat.unpack .binary64 (packComponents .binary64 s 0#11 0#52) =
    .zero s := by
  rw [unpack_fields s (unpackSign_components s _ _) (unpackExponent_packComponents ..)
    (unpackMantissa_packComponents ..)]
  rfl

theorem unpack_subnormal {m : ℕ} (positive : 0 < m) (digits : mantissa.toNat = m) :
    UnpackedFloat.unpack .binary64 (packComponents .binary64 s 0#11 mantissa) =
      .finite s m (-1074) positive := by
  have apart : mantissa ≠ 0#52 := by
    rintro rfl
    exact positive.ne digits
  subst digits
  rw [unpack_fields s (unpackSign_components s _ _) (unpackExponent_packComponents ..)
    (unpackMantissa_packComponents ..), if_neg (by decide), if_pos rfl, dif_neg apart]
  rfl

theorem unpack_normal {m : ℕ} {e : ℤ} (positive : 0 < m) (digits : (1#1 ++ mantissa).toNat = m)
    (field : (exponent.toNat : ℤ) = e + 1075) (low : -1074 ≤ e) (high : e ≤ 971) :
    UnpackedFloat.unpack .binary64 (packComponents .binary64 s exponent mantissa) =
      .finite s m e positive := by
  have notLast : exponent ≠ -1#11 := by
    rintro rfl
    have last : (2047 : ℤ) = e + 1075 := field
    omega
  have notFirst : exponent ≠ 0#11 := by
    rintro rfl
    have first : (0 : ℤ) = e + 1075 := field
    omega
  subst digits
  obtain rfl : e = (exponent.toNat : ℤ) - 1075 := by omega
  rw [unpack_fields s (unpackSign_components s _ _) (unpackExponent_packComponents ..)
    (unpackMantissa_packComponents ..), if_neg notLast, if_neg notFirst]

theorem pack_subnormal {m : ℕ} (positive : 0 < m) (few : m < 2 ^ 52) :
    UnpackedFloat.pack .binary64 (.finite s m (-1074) positive) =
      packComponents .binary64 s 0#11 (BitVec.ofNat 52 m) := by
  have length : m.log2 + 1 ≠ Format.binary64.mantissaBits := by
    have short := (Nat.log2_lt positive.ne').mpr few
    show m.log2 + 1 ≠ 53
    omega
  unfold UnpackedFloat.pack
  dsimp only
  rw [if_neg (by decide), if_neg length]

theorem pack_normal {m biased : ℕ} {e : ℤ} (positive : 0 < m) (many : 2 ^ 52 ≤ m)
    (bits : m < 2 ^ 53) (shifted : (biased : ℤ) = e + 1075) (small : biased + 1 < 2 ^ 11) :
    UnpackedFloat.pack .binary64 (.finite s m e positive) =
      packComponents .binary64 s (BitVec.ofNat 11 biased) (BitVec.ofNat 52 m) := by
  have length : m.log2 + 1 = Format.binary64.mantissaBits := by
    have long : m.log2 = 52 := (Nat.log2_eq_iff positive.ne').mpr ⟨many, bits⟩
    rw [long]
    rfl
  have field : (e + (Format.binary64.exponentBias : ℤ) +
      (Format.binary64.mantissaBitsWithoutImplicit : ℤ)).toNat = biased := by
    show (e + 1023 + 52).toNat = biased
    omega
  unfold UnpackedFloat.pack
  dsimp only
  rw [field, if_pos length, if_neg]
  show ¬ 2 ^ 11 ≤ biased + 1
  omega

end Components

/-- A number below the greatest power of two that has 53 bits has a small exponent. -/
theorem exponent_le {m : ℕ} {e : ℤ} (many : 2 ^ 52 ≤ m)
    (small : (m : ℚ) * 2 ^ e < 2 ^ (1024 : ℤ)) : e ≤ 971 := by
  by_contra above
  have reach : (2 : ℚ) ^ (1024 : ℤ) ≤ m * 2 ^ e := by
    have castMany : (2 : ℚ) ^ (52 : ℤ) ≤ m := by exact_mod_cast many
    have wide : (2 : ℚ) ^ (972 : ℤ) ≤ 2 ^ e := zpow_le_zpow_right₀ one_le_two (by omega)
    calc (2 : ℚ) ^ (1024 : ℤ) = 2 ^ (52 : ℤ) * 2 ^ (972 : ℤ) := by
          rw [← zpow_add₀ two_ne_zero]
          rfl
      _ ≤ m * 2 ^ e := mul_le_mul castMany wide (by positivity) (by positivity)
  exact absurd small reach.not_gt

/-- A canonical float below the greatest power of two comes back from its bits. -/
theorem unpack_pack {a : UnpackedFloat} (canonical : Canonical a)
    (small : |valueOf a| < 2 ^ (1024 : ℤ)) :
    (Float.Model.pack a).unpack = a := by
  show UnpackedFloat.unpack .binary64 (UnpackedFloat.pack .binary64 a) = a
  cases a with
  | infinity s => exact canonical.elim
  | notANumber => exact canonical.elim
  | zero s =>
    have packed : UnpackedFloat.pack .binary64 (.zero s) = packComponents .binary64 s 0#11 0#52 :=
      rfl
    rw [packed]
    exact unpack_zero s
  | finite s m e positive =>
    obtain ⟨bits, least, full⟩ := canonical
    have size : |valueOf (.finite s m e positive)| = m * 2 ^ e := by
      have nonneg : (0 : ℚ) ≤ m * 2 ^ e := by positivity
      cases s
      · exact (abs_neg _).trans (abs_of_nonneg nonneg)
      · exact abs_of_nonneg nonneg
    rw [size] at small
    rcases Nat.lt_or_ge m (2 ^ 52) with few | many
    · obtain rfl : e = -1074 := full.resolve_left few.not_ge
      have digits : (BitVec.ofNat 52 m).toNat = m := Nat.mod_eq_of_lt few
      rw [pack_subnormal s positive few]
      exact unpack_subnormal s positive digits
    · have greatest := exponent_le many small
      obtain ⟨biased, shifted⟩ : ∃ biased : ℕ, (biased : ℤ) = e + 1075 :=
        ⟨(e + 1075).toNat, Int.toNat_of_nonneg (by omega)⟩
      have exponentDigits : ((BitVec.ofNat 11 biased).toNat : ℤ) = e + 1075 := by
        rw [← shifted]
        exact_mod_cast Nat.mod_eq_of_lt (show biased < 2 ^ 11 by omega)
      have mantissaDigits : (1#1 ++ BitVec.ofNat 52 m).toNat = m := by
        have rest : (BitVec.ofNat 52 m).toNat < 2 ^ 52 := (BitVec.ofNat 52 m).isLt
        rw [BitVec.toNat_append, ← Nat.shiftLeft_add_eq_or_of_lt rest]
        show 1 <<< 52 + m % 2 ^ 52 = m
        omega
      rw [pack_normal s positive many bits shifted (by omega)]
      exact unpack_normal s positive mantissaDigits exponentDigits least greatest

/-! ### Operations -/

theorem near_lt_of_inRange {x : ℚ} (range : InRange x) : |near x| < 2 ^ (1024 : ℤ) := by
  have edge : near (2 ^ (1023 : ℤ)) = 2 ^ (1023 : ℤ) := near_zpow (by norm_num)
  obtain ⟨below, above⟩ := abs_le.mp range
  have high : near x ≤ 2 ^ (1023 : ℤ) := by
    rw [← edge]
    exact near_mono above
  have low : -2 ^ (1023 : ℤ) ≤ near x := by
    rw [← edge, ← near_neg]
    exact near_mono below
  have between : |near x| ≤ 2 ^ (1023 : ℤ) := abs_le.mpr ⟨low, high⟩
  refine between.trans_lt ?_
  exact zpow_lt_zpow_right₀ one_lt_two (by norm_num)

/-- A canonical result is packed into the float that denotes it, unless it is too large. -/
theorem denotes_pack_of_lt {a : UnpackedFloat} {x : ℚ} (result : Canonical a ∧ valueOf a = near x)
    (small : |near x| < 2 ^ (1024 : ℤ)) : Denotes (.ofModel (Float.Model.pack a)) (near x) := by
  obtain ⟨canonical, value⟩ := result
  have back : (Float.Model.pack a).unpack = a := by
    apply unpack_pack canonical
    rw [value]
    exact small
  exact ⟨by rw [back]; exact canonical, by rw [back]; exact value⟩

theorem denotes_pack {a : UnpackedFloat} {x : ℚ} (result : Canonical a ∧ valueOf a = near x)
    (range : InRange x) : Denotes (.ofModel (Float.Model.pack a)) (near x) :=
  denotes_pack_of_lt result (near_lt_of_inRange range)

section Operations

variable {x y : Float} {p q : ℚ}

theorem Denotes.near (denotes : Denotes x p) : near p = p := by
  rw [← denotes.value]
  exact denotes.canonical.near_valueOf

theorem Denotes.add (first : Denotes x p) (second : Denotes y q) (range : InRange (p + q)) :
    Denotes (x + y) (Rounding.near (p + q)) := by
  have result := add_near first.canonical second.canonical
  rw [first.value, second.value] at result
  exact denotes_pack result range

theorem Denotes.sub (first : Denotes x p) (second : Denotes y q) (range : InRange (p - q)) :
    Denotes (x - y) (Rounding.near (p - q)) := by
  have result := sub_near first.canonical second.canonical
  rw [first.value, second.value] at result
  exact denotes_pack result range

theorem Denotes.mul (first : Denotes x p) (second : Denotes y q) (range : InRange (p * q)) :
    Denotes (x * y) (Rounding.near (p * q)) := by
  have result := mul_near first.canonical second.canonical
  rw [first.value, second.value] at result
  exact denotes_pack result range

theorem Denotes.div (first : Denotes x p) (second : Denotes y q) (apart : q ≠ 0)
    (range : InRange (p / q)) : Denotes (x / y) (Rounding.near (p / q)) := by
  have result := div_near first.canonical second.canonical (by rw [second.value]; exact apart)
  rw [first.value, second.value] at result
  exact denotes_pack result range

end Operations

/-! ### Whole numbers -/

theorem denotes_one : Denotes (Float.ofBits 0x3FF0000000000000) 1 := by
  have bits : (Float.ofBits 0x3FF0000000000000).toModel.unpack =
      .finite .positive (2 ^ 52) (-52) (by decide) := rfl
  refine ⟨by rw [bits]; exact ⟨by decide, by decide, .inl le_rfl⟩, ?_⟩
  rw [bits]
  show ((2 ^ 52 : ℕ) : ℚ) * 2 ^ (-52 : ℤ) = 1
  norm_num

/-- A word is read as the nearest number of a float. -/
theorem denotes_word (n : UInt64) (range : InRange n.toNat) : Denotes n.toFloat (near n.toNat) := by
  have result := normalize_near n.toNat 0 .positive
  rw [zpow_zero, mul_one, Int.cast_natCast] at result
  exact denotes_pack result range

/-- A whole number in decimals that is not read as the product of two floats is read as a mantissa
with digits to spare. -/
theorem ofScientific_whole {m n : ℕ} (some : m ≠ 0) (slow : ¬ (m < 2 ^ 53 ∧ n ≤ 22))
    (most : n ≤ 2 ^ 11) : ∃ a, (Canonical a ∧ valueOf a = near (m * 10 ^ n)) ∧
      Float.ofScientific m false n = .ofModel (Float.Model.pack a) := by
  have read : Float.ofScientific m false n = .ofModel (Float.Model.pack
      (roundWithAccuracy .binary64 (.positive * .positive) (m <<< 53 * 10 ^ n) (-53 + 0)
        .exact)) := by
    unfold Float.ofScientific
    rw [dif_neg slow]
    show Float.ofModel (Float.Model.pack (UnpackedFloat.ofScientific .binary64 m n)) = _
    unfold UnpackedFloat.ofScientific
    have shallow : ¬ (n : ℤ) > 2 ^ Format.binary64.exponentBits := by
      show ¬ (n : ℤ) > 2 ^ 11
      omega
    have deep : ¬ (n : ℤ) < -((2 ^ Format.binary64.exponentBits : ℤ) + m.log2) := by
      show ¬ (n : ℤ) < -(2 ^ 11 + m.log2)
      omega
    rw [dif_neg some, if_neg shallow, if_neg deep, if_pos (Int.natCast_nonneg n)]
    rfl
  have value : ((m <<< 53 * 10 ^ n : ℕ) : ℚ) * 2 ^ (-53 + 0 : ℤ) = m * 10 ^ n := by
    rw [Nat.shiftLeft_eq]
    push_cast
    norm_num
    ring
  have mantissa : 2 ^ 52 ≤ m <<< 53 * 10 ^ n := by
    refine le_trans ?_ (Nat.le_mul_of_pos_right _ (Nat.pow_pos (by decide)))
    rw [Nat.shiftLeft_eq]
    omega
  have positive : (0 : ℚ) < (m <<< 53 * 10 ^ n : ℕ) := by
    exact_mod_cast (Nat.two_pow_pos 52).trans_le mantissa
  have result := roundWithAccuracy_near (.positive * .positive) positive
    (encodes_exact (m <<< 53 * 10 ^ n)) (le_place (e := -53 + 0) mantissa)
  rw [value] at result
  exact ⟨_, result, read⟩

theorem ofNat_large {n : ℕ} (large : ¬ n < 2 ^ 53) : ∃ a, (Canonical a ∧ valueOf a = near n) ∧
    Float.ofNat n = .ofModel (Float.Model.pack a) := by
  have read := ofScientific_whole (m := n) (n := 0) (by omega) (fun both => large both.1) (by decide)
  rwa [pow_zero, mul_one] at read

/-- **A whole number is read as the nearest number of a float.** Small ones are read as a word. -/
theorem denotes_ofNat {n : ℕ} (range : InRange n) : Denotes (Float.ofNat n) (near n) := by
  by_cases small : n < 2 ^ 53
  · have fast : Float.ofScientific n false 0 =
        n.toUInt64.toFloat * Float.ofBits 0x3FF0000000000000 := by
      unfold Float.ofScientific
      rw [dif_pos ⟨small, by decide⟩]
      rfl
    have word : n.toUInt64.toNat = n := Nat.mod_eq_of_lt (by omega)
    have kept : near (n : ℚ) = n := near_natCast small.le
    have read := denotes_word n.toUInt64 (by rw [word]; exact range)
    rw [word, kept] at read
    have product := read.mul denotes_one (by rw [mul_one]; exact range)
    rw [mul_one] at product
    show Denotes (Float.ofScientific n false 0) (near n)
    rw [fast]
    exact product
  · obtain ⟨a, result, read⟩ := ofNat_large small
    rw [read]
    exact denotes_pack result range

/-- A whole number of 64 bits is in range. -/
theorem denotes_natCast {n : ℕ} (bound : n ≤ 2 ^ 64) : Denotes (Float.ofNat n) (near n) := by
  apply denotes_ofNat
  apply inRange_of_le
  rw [abs_of_nonneg (Nat.cast_nonneg n)]
  have cast : (n : ℚ) ≤ 2 ^ (64 : ℤ) := by exact_mod_cast bound
  exact cast.trans (zpow_le_zpow_right₀ one_le_two (by norm_num))

end LoadTest.Rounding
