/-
**The arithmetic of unpacked floats is exact arithmetic, rounded.**

The model of a float keeps a mantissa, an exponent and two bits about what was shifted out. Those
two bits say where the exact value lies between two mantissas, and that is all that rounding to the
nearest even mantissa needs. So every operation gives the number of a float that is nearest to the
exact result.

* `Rounding.Encodes`: a mantissa and its two bits, for an exact value;
* `Rounding.valueOf`, `Rounding.Canonical`: the number of an unpacked float, and its normal form;
* `Rounding.roundWithAccuracy_near`: rounding an encoded value;
* `Rounding.add_near`, `Rounding.sub_near`, `Rounding.mul_near`, `Rounding.div_near`: the operations.
-/

import Mathlib.Tactic.FieldSimp
import Mathlib.Tactic.Ring
import LoadTest.Proofs.Float.Rounding

namespace LoadTest.Rounding

open Float.Model Float.Model.UnpackedFloat

/-! ### Mantissas with two bits -/

/-- The mantissa and the two bits behind it stand for an exact value: whether it is at least half a
step above the mantissa, and whether it is neither the mantissa nor half a step above it. -/
structure Encodes (em : ExtendedMantissa) (x : ℚ) : Prop where
  low : (em.mantissa : ℚ) ≤ x
  high : x < em.mantissa + 1
  round : em.roundBit = true ↔ 1 / 2 ≤ x - em.mantissa
  sticky : em.stickyBit = true ↔ x - em.mantissa ≠ 0 ∧ x - em.mantissa ≠ 1 / 2

section Encoding

variable {em : ExtendedMantissa} {x : ℚ}

/-- A mantissa that is exact. -/
theorem encodes_exact (m : ℕ) : Encodes (.ofMantissaAndAccuracy m .exact) m where
  low := le_rfl
  high := by simp [ExtendedMantissa.ofMantissaAndAccuracy]
  round := by simp [ExtendedMantissa.ofMantissaAndAccuracy]
  sticky := by simp [ExtendedMantissa.ofMantissaAndAccuracy]

/-- A mantissa that is the whole part of a fraction. -/
theorem encodes_fraction (num den : ℕ) (positive : 0 < den) :
    Encodes (.ofMantissaAndAccuracy (num / den) (accuracyOfFraction (num % den) den))
      ((num : ℚ) / den) := by
  have cast : (0 : ℚ) < den := by exact_mod_cast positive
  have small : num % den < den := Nat.mod_lt _ positive
  have whole : (num : ℚ) / den = (num / den : ℕ) + (num % den : ℕ) / den := by
    have parts : (num : ℚ) = den * (num / den : ℕ) + (num % den : ℕ) := by
      exact_mod_cast (Nat.div_add_mod num den).symm
    rw [div_eq_iff cast.ne', add_mul, div_mul_cancel₀ _ cast.ne']
    linarith
  rw [whole]
  generalize num / den = m
  generalize num % den = r at small
  have mantissa : (ExtendedMantissa.ofMantissaAndAccuracy m (accuracyOfFraction r den)).mantissa =
      m := by
    unfold ExtendedMantissa.ofMantissaAndAccuracy
    split <;> rfl
  have half : (1 : ℚ) / 2 ≤ r / den ↔ den ≤ 2 * r := by
    rw [div_le_div_iff₀ two_pos cast, one_mul, mul_comm (r : ℚ)]
    exact_mod_cast Iff.rfl
  have middle : (r : ℚ) / den = 1 / 2 ↔ 2 * r = den := by
    rw [div_eq_div_iff cast.ne' two_ne_zero, one_mul, mul_comm (r : ℚ)]
    exact_mod_cast Iff.rfl
  have nothing : (r : ℚ) / den = 0 ↔ r = 0 := by
    rw [div_eq_zero_iff, or_iff_left cast.ne']
    exact_mod_cast Iff.rfl
  refine ⟨?_, ?_, ?_, ?_⟩
  · rw [mantissa]
    exact le_add_of_nonneg_right (by positivity)
  · rw [mantissa]
    have below : (r : ℚ) / den < 1 := (div_lt_one cast).mpr (by exact_mod_cast small)
    linarith
  · rw [mantissa, add_sub_cancel_left, half]
    unfold accuracyOfFraction
    split_ifs with zero
    · simp [ExtendedMantissa.ofMantissaAndAccuracy]
      omega
    · rcases order : compare (2 * r) den with _ | _ | _
      · rw [Nat.compare_eq_lt] at order
        simp [ExtendedMantissa.ofMantissaAndAccuracy]
        omega
      · rw [Nat.compare_eq_eq] at order
        simp [ExtendedMantissa.ofMantissaAndAccuracy]
        omega
      · rw [Nat.compare_eq_gt] at order
        simp [ExtendedMantissa.ofMantissaAndAccuracy]
        omega
  · rw [mantissa, add_sub_cancel_left, ne_eq, ne_eq, nothing, middle]
    unfold accuracyOfFraction
    split_ifs with zero
    · simp [ExtendedMantissa.ofMantissaAndAccuracy, zero]
    · rcases order : compare (2 * r) den with _ | _ | _
      · rw [Nat.compare_eq_lt] at order
        simp [ExtendedMantissa.ofMantissaAndAccuracy, zero]
        omega
      · rw [Nat.compare_eq_eq] at order
        simp [ExtendedMantissa.ofMantissaAndAccuracy, order]
      · rw [Nat.compare_eq_gt] at order
        simp [ExtendedMantissa.ofMantissaAndAccuracy, zero]
        omega

/-- Shifting halves the value. -/
theorem Encodes.shiftRightOne (encoded : Encodes em x) : Encodes em.shiftRightOne (x / 2) := by
  obtain ⟨m, round, sticky⟩ := em
  obtain ⟨low, high, isRound, isSticky⟩ := encoded
  dsimp only at low high isRound isSticky
  have parts : (m : ℚ) = 2 * (m / 2 : ℕ) + (m % 2 : ℕ) := by
    exact_mod_cast (Nat.div_add_mod m 2).symm
  have inexact : (round || sticky) = true ↔ x - m ≠ 0 := by
    rw [Bool.or_eq_true, isRound, isSticky]
    constructor
    · rintro (atHalf | apart)
      · intro exact
        rw [exact] at atHalf
        norm_num at atHalf
      · exact apart.1
    · intro apart
      by_cases atHalf : x - m = 1 / 2
      · exact .inl atHalf.ge
      · exact .inr ⟨apart, atHalf⟩
  have even_or_odd : m % 2 = 0 ∨ m % 2 = 1 := Nat.mod_two_eq_zero_or_one m
  rcases even_or_odd with even | odd
  · rw [even, Nat.cast_zero, add_zero] at parts
    refine ⟨?_, ?_, ?_, ?_⟩
    · show ((m / 2 : ℕ) : ℚ) ≤ x / 2
      linarith
    · show x / 2 < (m / 2 : ℕ) + 1
      linarith
    · show (m % 2 != 0) = true ↔ 1 / 2 ≤ x / 2 - (m / 2 : ℕ)
      rw [even]
      constructor
      · simp
      · intro above
        linarith
    · show (round || sticky) = true ↔ x / 2 - (m / 2 : ℕ) ≠ 0 ∧ x / 2 - (m / 2 : ℕ) ≠ 1 / 2
      rw [inexact]
      constructor
      · intro apart
        refine ⟨fun zero => apart (by linarith), fun middle => ?_⟩
        linarith
      · rintro ⟨apart, -⟩ exact
        exact apart (by linarith)
  · rw [odd, Nat.cast_one] at parts
    refine ⟨?_, ?_, ?_, ?_⟩
    · show ((m / 2 : ℕ) : ℚ) ≤ x / 2
      linarith
    · show x / 2 < (m / 2 : ℕ) + 1
      linarith
    · show (m % 2 != 0) = true ↔ 1 / 2 ≤ x / 2 - (m / 2 : ℕ)
      rw [odd]
      constructor
      · intro _
        linarith
      · simp
    · show (round || sticky) = true ↔ x / 2 - (m / 2 : ℕ) ≠ 0 ∧ x / 2 - (m / 2 : ℕ) ≠ 1 / 2
      rw [inexact]
      constructor
      · intro apart
        refine ⟨fun zero => ?_, fun middle => apart (by linarith)⟩
        linarith
      · rintro ⟨-, apart⟩ exact
        exact apart (by linarith)

theorem Encodes.shiftRight (encoded : Encodes em x) (n : ℕ) : Encodes (em >>> n) (x / 2 ^ n) := by
  induction n with
  | zero =>
    rw [pow_zero, div_one]
    exact encoded
  | succ n ih =>
    have next := ih.shiftRightOne
    rw [div_div, ← pow_succ] at next
    exact next

/-- **The two bits are enough to round.** -/
theorem Encodes.roundedMantissa (encoded : Encodes em x) : (em.roundedMantissa : ℤ) = halfEven x := by
  obtain ⟨m, round, sticky⟩ := em
  obtain ⟨low, high, isRound, isSticky⟩ := encoded
  dsimp only at low high isRound isSticky
  have whole : ⌊x⌋ = m := Int.floor_eq_iff.mpr ⟨by exact_mod_cast low, by exact_mod_cast high⟩
  have rest : Int.fract x = x - m := by
    rw [Int.fract, whole]
    norm_num
  rw [halfEven, whole, rest]
  cases round with
  | false =>
    have below : x - m < 1 / 2 := by simpa using isRound
    rw [if_pos below]
    cases sticky <;> rfl
  | true =>
    have above : 1 / 2 ≤ x - m := isRound.mp rfl
    rw [if_neg above.not_gt]
    cases sticky with
    | false =>
      have middle : x - m = 1 / 2 := by
        by_contra apart
        have sticks : False := by simpa using isSticky.mpr ⟨by linarith, apart⟩
        exact sticks
      rw [if_pos middle]
      exact_mod_cast rfl
    | true =>
      rw [if_neg (isSticky.mp rfl).2]
      exact_mod_cast rfl

end Encoding

/-! ### Rounding unpacked floats -/

/-- A number with a sign. -/
def signed : Sign → ℚ → ℚ
  | .negative, x => -x
  | .positive, x => x

/-- The number of an unpacked float; zero for what is none. -/
def valueOf : UnpackedFloat → ℚ
  | .finite sign mantissa exponent _ => signed sign (mantissa * 2 ^ exponent)
  | _ => 0

/-- A finite unpacked float whose mantissa has 53 bits, or fewer at the least exponent. -/
def Canonical : UnpackedFloat → Prop
  | .finite _ mantissa exponent _ =>
    mantissa < 2 ^ 53 ∧ -1074 ≤ exponent ∧ (2 ^ 52 ≤ mantissa ∨ exponent = -1074)
  | .zero _ => True
  | _ => False

theorem valueOf_finite (s : Sign) (e : ℤ) {m : ℕ} (positive : 0 < m) :
    valueOf (.finite s m e positive) = signed s (m * 2 ^ e) := rfl

@[simp] theorem signed_zero (s : Sign) : signed s 0 = 0 := by
  cases s <;> simp [signed]

theorem near_signed (s : Sign) (x : ℚ) : near (signed s x) = signed s (near x) := by
  cases s <;> simp [signed]

theorem signed_mul (s t : Sign) (x y : ℚ) : signed s x * signed t y = signed (s * t) (x * y) := by
  cases s <;> cases t
  · exact neg_mul_neg x y
  · exact neg_mul x y
  · exact mul_neg x y
  · rfl

theorem signed_div (s t : Sign) (x y : ℚ) : signed s x / signed t y = signed (s / t) (x / y) := by
  cases s <;> cases t
  · exact neg_div_neg_eq x y
  · exact neg_div y x
  · exact div_neg x
  · rfl

/-- What a float stands for is not changed by rounding. -/
theorem Canonical.near_valueOf {a : UnpackedFloat} (canonical : Canonical a) :
    near (valueOf a) = valueOf a := by
  cases a with
  | finite sign mantissa exponent _ =>
    obtain ⟨bits, least, -⟩ := canonical
    have kept : near ((mantissa : ℤ) * 2 ^ exponent) = (mantissa : ℤ) * 2 ^ exponent :=
      near_grid (by rw [abs_of_nonneg (by positivity)]; exact_mod_cast bits) least
    rw [Int.cast_natCast] at kept
    rw [valueOf_finite, near_signed, kept]
  | zero _ => exact near_zero
  | infinity _ => exact near_zero
  | notANumber => exact near_zero

/-- The size of an encoded value is that of its mantissa. -/
theorem log_encoded {m : ℕ} {e : ℤ} {x : ℚ} (positive : 0 < m) (low : (m : ℚ) ≤ x)
    (high : x < m + 1) : Int.log 2 (x * 2 ^ e) = m.log2 + e := by
  have power : (0 : ℚ) < 2 ^ e := by positivity
  have castPositive : (0 : ℚ) < m := by exact_mod_cast positive
  have value : 0 < x * 2 ^ e := mul_pos (castPositive.trans_le low) power
  apply le_antisymm
  · have below : m + 1 ≤ 2 ^ (m.log2 + 1) := Nat.lt_log2_self
    have castBelow : (m : ℚ) + 1 ≤ 2 ^ ((m.log2 : ℤ) + 1) := by exact_mod_cast below
    have bound : x * 2 ^ e < 2 ^ ((m.log2 : ℤ) + e + 1) := by
      rw [show (m.log2 : ℤ) + e + 1 = (m.log2 + 1) + e by ring, zpow_add₀ two_ne_zero]
      exact mul_lt_mul_of_pos_right (high.trans_le castBelow) power
    have small : Int.log 2 (x * 2 ^ e) < m.log2 + e + 1 :=
      (Int.lt_zpow_iff_log_lt one_lt_two value).mp (by exact_mod_cast bound)
    omega
  · apply (Int.zpow_le_iff_le_log one_lt_two value).mp
    have above : 2 ^ m.log2 ≤ m := Nat.log2_self_le positive.ne'
    have castAbove : (2 : ℚ) ^ (m.log2 : ℤ) ≤ m := by exact_mod_cast above
    push_cast
    rw [zpow_add₀ two_ne_zero]
    exact mul_le_mul_of_nonneg_right (castAbove.trans low) power.le

theorem targetExponent_eq (total : ℤ) :
    Format.binary64.targetExponent total = max (total - 53) (-1074) := rfl

/-- The exponent that the model aims at is the place of the value. -/
theorem targetExponent_place {m : ℕ} {e : ℤ} {x : ℚ} (positive : 0 < m) (low : (m : ℚ) ≤ x)
    (high : x < m + 1) :
    Format.binary64.targetExponent (totalExponent m e) = place (x * 2 ^ e) := by
  rw [targetExponent_eq, place, log_encoded positive low high, totalExponent]
  congr 1
  omega

/-- The same for a value that may be less than its last digit, when no digit is to be added. -/
theorem targetExponent_place_of_le {m : ℕ} {e : ℤ} {x : ℚ} (positive : 0 < x) (low : (m : ℚ) ≤ x)
    (high : x < m + 1) (enough : e ≤ place (x * 2 ^ e)) :
    Format.binary64.targetExponent (totalExponent m e) = place (x * 2 ^ e) := by
  rcases Nat.eq_zero_or_pos m with rfl | whole
  · have power : (0 : ℚ) < 2 ^ e := by positivity
    have small : Int.log 2 (x * 2 ^ e) < e := by
      apply (Int.lt_zpow_iff_log_lt one_lt_two (mul_pos positive power)).mp
      have below : x * 2 ^ e < 1 * 2 ^ e :=
        mul_lt_mul_of_pos_right (by simpa using high) power
      rw [one_mul] at below
      exact_mod_cast below
    rw [targetExponent_eq, totalExponent, Nat.log2_zero]
    unfold place at enough ⊢
    omega
  · exact targetExponent_place whole low high

/-- A mantissa of at most 53 bits needs no second shift; one of 54 bits is `2 ^ 53` and needs one. -/
theorem shiftToTarget_exact {r : ℕ} {g : ℤ} (bits : r ≤ 2 ^ 53) (least : -1074 ≤ g) :
    ∃ m e, ((shiftToTargetExponent .binary64 r g .exact).1.mantissa = m ∧
      (shiftToTargetExponent .binary64 r g .exact).2 = e) ∧
        (m = r ∧ e = g ∧ r < 2 ^ 53 ∨ m = 2 ^ 52 ∧ e = g + 1 ∧ r = 2 ^ 53) := by
  refine ⟨_, _, ⟨rfl, rfl⟩, ?_⟩
  rcases bits.lt_or_eq with small | edge
  · left
    have size : r.log2 ≤ 52 := by
      by_cases zero : r = 0
      · simp [zero]
      · exact Nat.lt_succ_iff.mp ((Nat.log2_lt zero).mpr small)
    have stays : (Format.binary64.targetExponent (totalExponent r g) - g).toNat = 0 := by
      rw [targetExponent_eq, totalExponent]
      omega
    unfold shiftToTargetExponent shiftToExponent
    dsimp only
    rw [stays]
    exact ⟨rfl, by simp, small⟩
  · right
    have moves : (Format.binary64.targetExponent (totalExponent r g) - g).toNat = 1 := by
      have size : r.log2 = 53 := by
        rw [edge]
        exact Nat.log2_two_pow
      rw [targetExponent_eq, totalExponent, size]
      omega
    unfold shiftToTargetExponent shiftToExponent
    dsimp only
    rw [moves, edge]
    exact ⟨rfl, by simp, rfl⟩

section Round

variable {m : ℕ} {e : ℤ} {accuracy : Accuracy} {x : ℚ}

/-- In steps of its place a number has at most 53 bits, and all of them above the least place. -/
theorem halfEven_bits {v : ℚ} (positive : 0 < v) :
    halfEven (v / 2 ^ place v) ≤ 2 ^ 53 ∧
      (2 ^ 52 ≤ halfEven (v / 2 ^ place v) ∨ place v = -1074) := by
  have power : (0 : ℚ) < 2 ^ place v := by positivity
  constructor
  · have size := Int.lt_zpow_succ_log_self (R := ℚ) one_lt_two v
    have wide : (2 : ℚ) ^ (Int.log 2 v + 1) ≤ 2 ^ (53 + place v) := by
      apply zpow_le_zpow_right₀ one_le_two
      unfold place
      omega
    have below : v / 2 ^ place v ≤ ((2 ^ 53 : ℤ) : ℚ) := by
      rw [div_le_iff₀ power]
      rw [zpow_add₀ two_ne_zero 53 (place v)] at wide
      push_cast at size ⊢
      exact (size.le.trans wide).trans_eq (by norm_num)
    exact halfEven_le below
  · by_cases edge : place v = -1074
    · exact .inr edge
    · left
      have reach := Int.zpow_log_le_self (R := ℚ) one_lt_two positive
      have narrow : (2 : ℚ) ^ (52 + place v) ≤ 2 ^ Int.log 2 v := by
        apply zpow_le_zpow_right₀ one_le_two
        unfold place at edge ⊢
        omega
      have above : ((2 ^ 52 : ℤ) : ℚ) ≤ v / 2 ^ place v := by
        rw [le_div_iff₀ power]
        rw [zpow_add₀ two_ne_zero 52 (place v)] at narrow
        push_cast at reach ⊢
        exact (narrow.trans reach).trans_eq' (by norm_num)
      exact le_halfEven above

/-- **Rounding an encoded value gives the nearest number of a float**, if no digit is to be
added. -/
theorem roundWithAccuracy_near (sign : Sign) (positive : 0 < x)
    (encoded : Encodes (.ofMantissaAndAccuracy m accuracy) x)
    (enough : e ≤ place (x * 2 ^ e)) :
    Canonical (roundWithAccuracy .binary64 sign m e accuracy) ∧
      valueOf (roundWithAccuracy .binary64 sign m e accuracy) = signed sign (near (x * 2 ^ e)) := by
  have mantissa : (ExtendedMantissa.ofMantissaAndAccuracy m accuracy).mantissa = m := by
    unfold ExtendedMantissa.ofMantissaAndAccuracy
    split <;> rfl
  have low := encoded.low
  have high := encoded.high
  rw [mantissa] at low high
  have power : (0 : ℚ) < 2 ^ e := by positivity
  have value : 0 < x * 2 ^ e := mul_pos positive power
  have target := targetExponent_place_of_le positive low high enough
  generalize hPlace : place (x * 2 ^ e) = g at target enough
  have least : -1074 ≤ g := by
    rw [← hPlace]
    exact le_max_right _ _
  -- After the first shift the mantissa is counted in steps of the place.
  obtain ⟨n, hn⟩ : ∃ n : ℕ, (g - e).toNat = n := ⟨_, rfl⟩
  have scale : x / 2 ^ n = x * 2 ^ e / 2 ^ g := by
    have span : (2 : ℚ) ^ g = 2 ^ n * 2 ^ e := by
      rw [← zpow_natCast, ← zpow_add₀ two_ne_zero]
      congr 1
      omega
    rw [span, mul_div_mul_right _ _ power.ne']
  have shifted := encoded.shiftRight n
  rw [scale] at shifted
  obtain ⟨r, hr⟩ : ∃ r : ℕ,
      (ExtendedMantissa.ofMantissaAndAccuracy m accuracy >>> n).roundedMantissa = r := ⟨_, rfl⟩
  have rounded : (r : ℤ) = halfEven (x * 2 ^ e / 2 ^ g) := by
    rw [← hr]
    exact shifted.roundedMantissa
  have nearest : near (x * 2 ^ e) = r * 2 ^ g := by
    rw [near_of_nonneg value.le, nearSize, hPlace, ← rounded, Int.cast_natCast]
  have digits := halfEven_bits value
  rw [hPlace, ← rounded] at digits
  have bits : r ≤ 2 ^ 53 := by exact_mod_cast digits.1
  have full : 2 ^ 52 ≤ r ∨ g = -1074 := by exact_mod_cast digits.2
  obtain ⟨m', e', ⟨hm', he'⟩, final⟩ := shiftToTarget_exact bits least
  have first : shiftToTargetExponent .binary64 m e accuracy =
      (ExtendedMantissa.ofMantissaAndAccuracy m accuracy >>> n, g) := by
    unfold shiftToTargetExponent shiftToExponent
    dsimp only
    rw [target, hn]
    congr 1
    omega
  have result : m' * (2 : ℚ) ^ e' = r * 2 ^ g := by
    rcases final with ⟨rfl, rfl, -⟩ | ⟨rfl, rfl, rfl⟩
    · rfl
    · rw [zpow_add_one₀ two_ne_zero]
      push_cast
      ring
  unfold roundWithAccuracy
  rw [first]
  dsimp only
  rw [hr]
  by_cases zero : m' = 0
  · rw [dif_pos (hm'.trans zero)]
    rw [zero, Nat.cast_zero, zero_mul] at result
    refine ⟨trivial, ?_⟩
    rw [nearest, ← result, signed_zero]
    rfl
  · rw [dif_neg fun none => zero (hm'.symm.trans none), nearest, ← result]
    refine ⟨?_, congrArg₂ (fun (m : ℕ) (e : ℤ) => signed sign (m * 2 ^ e)) hm' he'⟩
    show (_ : ℕ) < 2 ^ 53 ∧ (-1074 : ℤ) ≤ _ ∧ (2 ^ 52 ≤ (_ : ℕ) ∨ (_ : ℤ) = -1074)
    rw [hm', he']
    rcases final with ⟨rfl, rfl, small⟩ | ⟨rfl, rfl, -⟩
    · exact ⟨small, least, full⟩
    · exact ⟨by norm_num, by omega, .inl le_rfl⟩

/-- Rounding a mantissa and an exponent gives the nearest number of a float. -/
theorem round_near (sign : Sign) (positive : 0 < m) :
    Canonical (UnpackedFloat.round .binary64 sign m e) ∧
      valueOf (UnpackedFloat.round .binary64 sign m e) = signed sign (near (m * 2 ^ e)) := by
  have target := targetExponent_place (e := e) positive le_rfl (lt_add_one (m : ℚ))
  obtain ⟨k, hk⟩ : ∃ k : ℕ, (e - place ((m : ℚ) * 2 ^ e)).toNat = k := ⟨_, rfl⟩
  have same : ((m <<< k : ℕ) : ℚ) * 2 ^ (e - k) = m * 2 ^ e := by
    rw [Nat.shiftLeft_eq, zpow_sub₀ two_ne_zero, zpow_natCast]
    push_cast
    field_simp
  have castPositive : (0 : ℚ) < (m <<< k : ℕ) := by
    rw [Nat.shiftLeft_eq]
    exact_mod_cast Nat.mul_pos positive (Nat.two_pow_pos k)
  unfold UnpackedFloat.round decreaseExponent
  dsimp only
  rw [target, hk, ← same]
  refine roundWithAccuracy_near sign castPositive (encodes_exact _) ?_
  rw [same]
  omega

end Round

/-- Rounding a signed mantissa and an exponent gives the nearest number of a float. -/
theorem normalize_near (m e : ℤ) (sign : Sign) :
    Canonical (UnpackedFloat.normalize .binary64 m e sign) ∧
      valueOf (UnpackedFloat.normalize .binary64 m e sign) = near (m * 2 ^ e) := by
  unfold UnpackedFloat.normalize
  rcases order : compare m 0 with _ | _ | _
  · rw [Int.compare_eq_lt] at order
    obtain ⟨canonical, value⟩ := round_near (m := (-m).toNat) (e := e) .negative (by omega)
    refine ⟨canonical, value.trans ?_⟩
    have cast : (((-m).toNat : ℤ) : ℚ) = -m := by
      rw [Int.toNat_of_nonneg (by omega)]
      push_cast
      rfl
    rw [Int.cast_natCast] at cast
    rw [cast, neg_mul, near_neg, signed, neg_neg]
  · rw [Int.compare_eq_eq] at order
    rw [order, Int.cast_zero, zero_mul, near_zero]
    exact ⟨trivial, rfl⟩
  · rw [Int.compare_eq_gt] at order
    obtain ⟨canonical, value⟩ := round_near (m := m.toNat) (e := e) .positive (by omega)
    refine ⟨canonical, value.trans ?_⟩
    have cast : ((m.toNat : ℤ) : ℚ) = m := by
      rw [Int.toNat_of_nonneg (by omega)]
    rw [Int.cast_natCast] at cast
    rw [cast, signed]

/-! ### Operations -/

theorem signed_apply (s : Sign) (m : ℕ) (e : ℤ) :
    ((s.apply m : ℤ) : ℚ) * 2 ^ e = signed s (m * 2 ^ e) := by
  cases s
  · show ((-(m : ℤ) : ℤ) : ℚ) * 2 ^ e = -(m * 2 ^ e)
    push_cast
    ring
  · rfl

theorem valueOf_neg (a : UnpackedFloat) : valueOf a.neg = -valueOf a := by
  cases a with
  | finite sign mantissa exponent _ =>
    cases sign
    · exact (neg_neg _).symm
    · rfl
  | zero _ => exact neg_zero.symm
  | infinity _ => exact neg_zero.symm
  | notANumber => exact neg_zero.symm

/-- A mantissa at a smaller exponent. -/
theorem decreaseExponent_value {m : ℕ} {e least : ℤ} (small : least ≤ e) :
    ((decreaseExponent m e least).1 : ℚ) * 2 ^ least = m * 2 ^ e := by
  have span : (2 : ℚ) ^ e = 2 ^ (e - least).toNat * 2 ^ least := by
    rw [← zpow_natCast, Int.toNat_of_nonneg (by omega), ← zpow_add₀ two_ne_zero]
    congr 1
    omega
  unfold decreaseExponent
  dsimp only
  rw [Nat.shiftLeft_eq, span]
  push_cast
  ring

section Operations

variable {a b : UnpackedFloat}

theorem add_near (first : Canonical a) (second : Canonical b) :
    Canonical (UnpackedFloat.add .binary64 a b) ∧
      valueOf (UnpackedFloat.add .binary64 a b) = near (valueOf a + valueOf b) := by
  have keepsFirst := first.near_valueOf
  have keepsSecond := second.near_valueOf
  match a, b, first, second with
  | .zero s, .zero t, _, _ =>
    have zero : valueOf (.zero s) + valueOf (.zero t) = 0 := add_zero 0
    rw [zero, near_zero]
    unfold UnpackedFloat.add
    dsimp only
    split_ifs
    · exact ⟨trivial, rfl⟩
    · exact ⟨trivial, rfl⟩
  | .zero s, .finite t m e positive, _, second =>
    have same : valueOf (.zero s) + valueOf (.finite t m e positive) =
      valueOf (.finite t m e positive) := zero_add _
    rw [same, keepsSecond]
    exact ⟨second, rfl⟩
  | .finite t m e positive, .zero s, first, _ =>
    have same : valueOf (.finite t m e positive) + valueOf (.zero s) =
      valueOf (.finite t m e positive) := add_zero _
    rw [same, keepsFirst]
    exact ⟨first, rfl⟩
  | .finite s m e _, .finite t n f _, _, _ =>
    have sum : valueOf (.finite s m e ‹_›) + valueOf (.finite t n f ‹_›) =
        ((s.apply (decreaseExponent m e (min e f)).1 +
          t.apply (decreaseExponent n f (min e f)).1 : ℤ) : ℚ) * 2 ^ min e f := by
      rw [Int.cast_add, add_mul, signed_apply, signed_apply,
        decreaseExponent_value (min_le_left e f), decreaseExponent_value (min_le_right e f)]
      rfl
    rw [sum]
    exact normalize_near _ _ _

theorem sub_near (first : Canonical a) (second : Canonical b) :
    Canonical (UnpackedFloat.sub .binary64 a b) ∧
      valueOf (UnpackedFloat.sub .binary64 a b) = near (valueOf a - valueOf b) := by
  have keepsFirst := first.near_valueOf
  have keepsSecond := second.near_valueOf
  match a, b, first, second with
  | .zero s, .zero t, _, _ =>
    have zero : valueOf (.zero s) - valueOf (.zero t) = 0 := sub_zero 0
    rw [zero, near_zero]
    unfold UnpackedFloat.sub
    dsimp only
    split_ifs
    · exact ⟨trivial, rfl⟩
    · exact ⟨trivial, rfl⟩
  | .zero s, .finite t m e positive, _, second =>
    have opposite : valueOf (.zero s) - valueOf (.finite t m e positive) =
      -valueOf (.finite t m e positive) := zero_sub _
    rw [opposite, near_neg, keepsSecond]
    exact ⟨second, valueOf_neg (.finite t m e positive)⟩
  | .finite t m e positive, .zero s, first, _ =>
    have same : valueOf (.finite t m e positive) - valueOf (.zero s) =
      valueOf (.finite t m e positive) := sub_zero _
    rw [same, keepsFirst]
    exact ⟨first, rfl⟩
  | .finite s m e _, .finite t n f _, _, _ =>
    have difference : valueOf (.finite s m e ‹_›) - valueOf (.finite t n f ‹_›) =
        ((s.apply (decreaseExponent m e (min e f)).1 -
          t.apply (decreaseExponent n f (min e f)).1 : ℤ) : ℚ) * 2 ^ min e f := by
      rw [Int.cast_sub, sub_mul, signed_apply, signed_apply,
        decreaseExponent_value (min_le_left e f), decreaseExponent_value (min_le_right e f)]
      rfl
    rw [difference]
    exact normalize_near _ _ _

/-- A mantissa of many bits needs no further digit. -/
theorem le_place {m : ℕ} {e : ℤ} (bits : 2 ^ 52 ≤ m) : e ≤ place (m * 2 ^ e) := by
  have positive : 0 < m := (Nat.two_pow_pos 52).trans_le bits
  have size : 52 ≤ m.log2 := (Nat.le_log2 positive.ne').mpr bits
  rw [place, log_encoded positive le_rfl (lt_add_one _)]
  omega

theorem mul_near (first : Canonical a) (second : Canonical b) :
    Canonical (UnpackedFloat.mul .binary64 a b) ∧
      valueOf (UnpackedFloat.mul .binary64 a b) = near (valueOf a * valueOf b) := by
  match a, b, first, second with
  | .zero s, .zero t, _, _ =>
    have zero : valueOf (.zero s) * valueOf (.zero t) = 0 := mul_zero 0
    rw [zero, near_zero]
    exact ⟨trivial, rfl⟩
  | .zero s, .finite t m e positive, _, _ =>
    have zero : valueOf (.zero s) * valueOf (.finite t m e positive) = 0 := zero_mul _
    rw [zero, near_zero]
    exact ⟨trivial, rfl⟩
  | .finite t m e positive, .zero s, _, _ =>
    have zero : valueOf (.finite t m e positive) * valueOf (.zero s) = 0 := mul_zero _
    rw [zero, near_zero]
    exact ⟨trivial, rfl⟩
  | .finite s m e hm, .finite t n f hn, first, second =>
    have product : valueOf (.finite s m e hm) * valueOf (.finite t n f hn) =
        signed (s * t) ((m * n : ℕ) * 2 ^ (e + f)) := by
      rw [valueOf_finite, valueOf_finite, signed_mul, zpow_add₀ two_ne_zero]
      push_cast
      congr 1
      ring
    have positive : (0 : ℚ) < (m * n : ℕ) := by exact_mod_cast Nat.mul_pos hm hn
    have enough : e + f ≤ place ((m * n : ℕ) * 2 ^ (e + f)) := by
      rcases first.2.2 with bits | edge
      · exact le_place (bits.trans (Nat.le_mul_of_pos_right m hn))
      · rcases second.2.2 with bits | edgeToo
        · exact le_place (bits.trans (Nat.le_mul_of_pos_left n hm))
        · exact le_trans (by omega) (le_max_right _ _)
    rw [product, near_signed]
    exact roundWithAccuracy_near (s * t) positive (encodes_exact _) enough

/-- The total exponent of a float is one more than the logarithm of its size. -/
theorem totalExponent_bounds {m : ℕ} {e : ℤ} (positive : 0 < m) :
    (2 : ℚ) ^ (totalExponent m e - 1) ≤ m * 2 ^ e ∧ (m : ℚ) * 2 ^ e < 2 ^ totalExponent m e := by
  have value : (0 : ℚ) < m * 2 ^ e := by positivity
  have size := log_encoded (e := e) positive le_rfl (lt_add_one (m : ℚ))
  have total : totalExponent m e = Int.log 2 ((m : ℚ) * 2 ^ e) + 1 := by
    rw [size, totalExponent]
    ring
  rw [total, add_sub_cancel_right]
  have low := Int.zpow_log_le_self (R := ℚ) one_lt_two value
  have high := Int.lt_zpow_succ_log_self (R := ℚ) one_lt_two ((m : ℚ) * 2 ^ e)
  push_cast at low high
  exact ⟨low, high⟩

/-- A quotient of any mantissas has digits enough to be rounded. -/
theorem div_near_finite (s t : Sign) {m n : ℕ} (e f : ℤ) (hm : 0 < m) (hn : 0 < n) :
    Canonical (UnpackedFloat.div .binary64 (.finite s m e hm) (.finite t n f hn)) ∧
      valueOf (UnpackedFloat.div .binary64 (.finite s m e hm) (.finite t n f hn)) =
        near (valueOf (.finite s m e hm) / valueOf (.finite t n f hn)) := by
  obtain ⟨target, hTarget⟩ : ∃ target, min (e - f) (Format.binary64.targetExponent
    (totalExponent m e - totalExponent n f)) = target := ⟨_, rfl⟩
  obtain ⟨k, hk⟩ : ∃ k : ℕ, (e - f - target).toNat = k := ⟨_, rfl⟩
  have castN : (0 : ℚ) < n := by exact_mod_cast hn
  have castM : (0 : ℚ) < m := by exact_mod_cast hm
  have quotient : ((m <<< k : ℕ) : ℚ) / n * 2 ^ target = m * 2 ^ e / (n * 2 ^ f) := by
    have span : (2 : ℚ) ^ e = 2 ^ k * 2 ^ target * 2 ^ f := by
      rw [← zpow_natCast, ← zpow_add₀ two_ne_zero, ← zpow_add₀ two_ne_zero]
      congr 1
      omega
    rw [Nat.shiftLeft_eq, span]
    push_cast
    field_simp
  have positive : (0 : ℚ) < ((m <<< k : ℕ) : ℚ) / n := by
    rw [Nat.shiftLeft_eq]
    push_cast
    positivity
  have enough : target ≤ place (((m <<< k : ℕ) : ℚ) / n * 2 ^ target) := by
    have value : (0 : ℚ) < m * 2 ^ e / (n * 2 ^ f) := by positivity
    have size : totalExponent m e - totalExponent n f - 1 ≤
        Int.log 2 ((m : ℚ) * 2 ^ e / (n * 2 ^ f)) := by
      apply (Int.zpow_le_iff_le_log one_lt_two value).mp
      obtain ⟨lowM, -⟩ := totalExponent_bounds (e := e) hm
      obtain ⟨-, highN⟩ := totalExponent_bounds (e := f) hn
      have bottom : (0 : ℚ) < n * 2 ^ f := by positivity
      push_cast
      rw [le_div_iff₀ bottom]
      calc (2 : ℚ) ^ (totalExponent m e - totalExponent n f - 1) * (n * 2 ^ f)
          ≤ 2 ^ (totalExponent m e - totalExponent n f - 1) * 2 ^ totalExponent n f :=
            mul_le_mul_of_nonneg_left highN.le (by positivity)
        _ = 2 ^ (totalExponent m e - 1) := by
            rw [← zpow_add₀ two_ne_zero]
            congr 1
            ring
        _ ≤ m * 2 ^ e := lowM
    rw [quotient, place]
    rw [targetExponent_eq] at hTarget
    omega
  have ratio : valueOf (.finite s m e hm) / valueOf (.finite t n f hn) =
      signed (s / t) (((m <<< k : ℕ) : ℚ) / n * 2 ^ target) := by
    rw [valueOf_finite, valueOf_finite, signed_div, quotient]
  have result : UnpackedFloat.div .binary64 (.finite s m e hm) (.finite t n f hn) =
      roundWithAccuracy .binary64 (s / t) ((m <<< k) / n) target
        (accuracyOfFraction ((m <<< k) % n) n) := by
    subst hk hTarget
    rfl
  rw [ratio, result, near_signed]
  exact roundWithAccuracy_near (s / t) positive (encodes_fraction _ _ hn) enough

theorem div_near (first : Canonical a) (second : Canonical b) (apart : valueOf b ≠ 0) :
    Canonical (UnpackedFloat.div .binary64 a b) ∧
      valueOf (UnpackedFloat.div .binary64 a b) = near (valueOf a / valueOf b) := by
  match a, b, first, second with
  | .zero s, .zero t, _, _ => exact absurd rfl apart
  | .finite s m e hm, .zero t, _, _ => exact absurd rfl apart
  | .zero s, .finite t m e positive, _, _ =>
    have zero : valueOf (.zero s) / valueOf (.finite t m e positive) = 0 := zero_div _
    rw [zero, near_zero]
    exact ⟨trivial, rfl⟩
  | .finite s m e hm, .finite t n f hn, _, _ => exact div_near_finite s t e f hm hn

end Operations

end LoadTest.Rounding
