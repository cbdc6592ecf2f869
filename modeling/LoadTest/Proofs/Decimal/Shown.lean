/-
**The text of a float is read as the float.**

A finite float is written with a sign, digits and perhaps a point among them, never with an
exponent. Such a text is read as the very number that it shows, and rounding this number gives the
float that was written, bit for bit. The two zeros differ in their signs only and keep them.

* `Literal.Positional`: digits with at most one point, and the number they show;
* `Literal.Positional.magnitude?_eq`: how they are read;
* `positional_digitsText`: decimals are written that way;
* `readFloat?_showFloat`: a finite float is read from its text.
-/

import Mathlib.Data.List.TakeWhile
import LoadTest.Proofs.Float.Scientific
import LoadTest.Proofs.Decimal.Shortest

namespace LoadTest.Decimal

open Rounding Text

/-! ### Digits and a point -/

namespace Literal

/-- **Digits with at most one point among them**, and the number that they show. -/
inductive Positional : List Char → ℚ → Prop
  | whole {digits : List Char} (any : digits ≠ []) (each : ∀ c ∈ digits, c.isDigit = true) :
    Positional digits (digitsValue digits)
  | point {digits fraction : List Char} (any : digits ≠ [])
    (each : ∀ c ∈ digits ++ fraction, c.isDigit = true) :
    Positional (digits ++ '.' :: fraction)
      (digitsValue (digits ++ fraction) / 10 ^ fraction.length)

variable {text : List Char} {q : ℚ}

/-- Such a text begins with a digit. -/
theorem Positional.first (positional : Positional text q) :
    ∃ c rest, text = c :: rest ∧ c.isDigit = true := by
  cases positional with
  | whole any each =>
    obtain ⟨c, rest, rfl⟩ := List.exists_cons_of_ne_nil any
    exact ⟨c, rest, rfl, each c List.mem_cons_self⟩
  | point any each =>
    obtain ⟨c, rest, rfl⟩ := List.exists_cons_of_ne_nil any
    exact ⟨c, _, rfl, each c List.mem_cons_self⟩

/-- **It is read as the number that it shows.** -/
theorem Positional.decimal?_eq (positional : Positional text q) :
    ∃ m e, decimal? text = some (.finite m e) ∧ (m : ℚ) * 10 ^ e = q := by
  cases positional with
  | whole any each =>
    refine ⟨digitsValue text, 0, ?_, by rw [zpow_zero, mul_one]⟩
    unfold decimal?
    rw [List.takeWhile_eq_self_iff.2 each, List.dropWhile_eq_nil_iff.2 each]
    dsimp only
    rw [List.isEmpty_eq_false_iff.2 any, List.append_nil]
    rfl
  | @point digits fraction any each =>
    refine ⟨digitsValue (digits ++ fraction), -fraction.length, ?_, by
      rw [zpow_neg, zpow_natCast]; rfl⟩
    obtain ⟨before, behind⟩ := List.forall_mem_append.1 each
    have noDigit : ¬ ('.' : Char).isDigit = true := by decide
    unfold decimal?
    rw [List.takeWhile_append_of_pos before, List.takeWhile_cons_of_neg noDigit, List.append_nil,
      List.dropWhile_append_of_pos before, List.dropWhile_cons_of_neg noDigit]
    show (if digits.isEmpty && (fraction.takeWhile Char.isDigit).isEmpty then none
      else (exponent? (fraction.dropWhile Char.isDigit)).map fun exponent =>
        Magnitude.finite (digitsValue (digits ++ fraction.takeWhile Char.isDigit))
          (exponent - (fraction.takeWhile Char.isDigit).length)) = _
    rw [List.takeWhile_eq_self_iff.2 behind, List.dropWhile_eq_nil_iff.2 behind,
      List.isEmpty_eq_false_iff.2 any, Bool.false_and, if_neg Bool.false_ne_true]
    show some (Magnitude.finite _ (0 - _)) = _
    rw [zero_sub]

theorem Positional.magnitude?_eq (positional : Positional text q) :
    ∃ m e, magnitude? text = some (.finite m e) ∧ (m : ℚ) * 10 ^ e = q := by
  obtain ⟨c, rest, rfl, isDigit⟩ := positional.first
  rw [magnitude?_digit isDigit]
  exact positional.decimal?_eq

/-- With a sign or without, it is read as the float nearest to the number. -/
theorem Positional.readFloat?_eq (positional : Positional text q) :
    ∃ m e, readFloat? text = some (nearest m e) ∧ readFloat? ('-' :: text) = some (-nearest m e) ∧
      (m : ℚ) * 10 ^ e = q := by
  obtain ⟨m, e, read, value⟩ := positional.magnitude?_eq
  obtain ⟨c, rest, split, isDigit⟩ := positional.first
  have plus : splitSign text = (false, text) := by
    rw [split]
    exact splitSign_digit isDigit rest
  refine ⟨m, e, ?_, ?_, value⟩
  · unfold readFloat? parse?
    rw [plus]
    dsimp only
    rw [read]
    rfl
  · unfold readFloat? parse?
    show ((magnitude? text).map (Literal.mk true)).map Literal.value = _
    rw [read]
    rfl

end Literal

/-! ### Decimals -/

theorem digitsValue_replicate_append (k : ℕ) (digits : List Char) :
    digitsValue (List.replicate k '0' ++ digits) = digitsValue digits := by
  have zeros : Nat.ofDigitChars 10 (List.replicate k '0') 0 = 0 := by
    rw [Nat.ofDigitChars_replicate_zero, mul_zero]
  show Nat.ofDigitChars 10 (List.replicate k '0' ++ digits) 0 = _
  rw [Nat.ofDigitChars_append, zeros]
  rfl

theorem digitsValue_append_replicate (digits : List Char) (k : ℕ) :
    digitsValue (digits ++ List.replicate k '0') = 10 ^ k * digitsValue digits := by
  show Nat.ofDigitChars 10 (digits ++ List.replicate k '0') 0 = _
  rw [Nat.ofDigitChars_append, Nat.ofDigitChars_replicate_zero]
  rfl

/-- **Numbers inside texts are written in digits with at most one point.** -/
theorem positional_digitsText (d : Digits) : Literal.Positional (plain.digitsText d) d.value := by
  obtain ⟨n, exponent⟩ := d
  have own : digitsValue (Nat.toDigits 10 n) = n := digitsValue_toDigits n
  have each := @isDigit_toDigits n
  have any : Nat.toDigits 10 n ≠ [] := Nat.toDigits_ne_nil
  show Literal.Positional (plain.positionalText (Nat.toDigits 10 n) exponent) (n * 10 ^ exponent)
  generalize Nat.toDigits 10 n = digits at own each any
  have length : 0 < digits.length := List.length_pos_iff.2 any
  unfold Layout.positionalText
  dsimp only
  split
  · -- zeros behind the digits
    rename_i nonneg
    have value : (digitsValue (digits ++ List.replicate exponent.toNat '0') : ℚ) =
        n * 10 ^ exponent := by
      rw [digitsValue_append_replicate, own, ← Int.toNat_of_nonneg nonneg, zpow_natCast]
      push_cast
      rw [Int.toNat_natCast, mul_comm]
    rw [← value]
    show Literal.Positional (digits ++ List.replicate exponent.toNat '0' ++ []) _
    rw [List.append_nil]
    exact .whole (by simp [any]) (List.forall_mem_append.2 ⟨each, isDigit_replicate _⟩)
  rename_i negative
  have fraction (size : ℕ) (same : (size : ℤ) = -exponent) :
      (n : ℚ) * 10 ^ exponent = n / 10 ^ size := by
    rw [← neg_neg exponent, ← same, zpow_neg, zpow_natCast]
    rfl
  split
  · -- the point among the digits
    generalize place : (exponent + digits.length - 1 + 1).toNat = k
    have whole : digits.take k ++ digits.drop k = digits := List.take_append_drop k digits
    have size : ((digits.drop k).length : ℤ) = -exponent := by
      rw [List.length_drop]
      omega
    have value : digitsValue (digits.take k ++ digits.drop k) = n := by rw [whole, own]
    rw [fraction _ size, ← value]
    refine .point (fun none => ?_) (whole.symm ▸ each)
    have first := congrArg List.length none
    rw [List.length_take, List.length_nil] at first
    omega
  · -- zeros between the point and the digits
    generalize zeros : (-(exponent + digits.length - 1) - 1).toNat = k
    have size : ((List.replicate k '0' ++ digits).length : ℤ) = -exponent := by
      rw [List.length_append, List.length_replicate]
      omega
    have value : digitsValue (['0'] ++ (List.replicate k '0' ++ digits)) = n :=
      (digitsValue_replicate_append (k + 1) digits).trans own
    rw [fraction _ size, ← value]
    show Literal.Positional (['0'] ++ '.' :: (List.replicate k '0' ++ digits)) _
    refine .point (List.cons_ne_nil _ _)
      (List.forall_mem_append.2 ⟨List.forall_mem_singleton.2 rfl, ?_⟩)
    exact List.forall_mem_append.2 ⟨isDigit_replicate _, each⟩

/-! ### Floats -/

/-- The size of a float, as the bits have it. -/
theorem abs_eq_value {x : Float} {p : ℚ} (denotes : Denotes x p) :
    |p| = (Binary.ofBits x.toBits).value := by
  rw [← denotes.value, valueOf_bits denotes.canonical, abs_signed]
  exact abs_of_nonneg (mul_nonneg (Nat.cast_nonneg _) (two_zpow_pos _).le)

/-- **The digits of a float are read as its size**, unless it is zero. -/
theorem exists_read_digits {x : Float} {p : ℚ} (denotes : Denotes x p)
    (any : (Binary.ofBits x.toBits).significand ≠ 0) :
    ∃ size : Float, Denotes size (Binary.ofBits x.toBits).value ∧
      readFloat? (plain.digitsText ((Binary.ofBits x.toBits).shortest .up)) = some size ∧
      readFloat? ('-' :: plain.digitsText ((Binary.ofBits x.toBits).shortest .up)) =
        some (-size) := by
  obtain ⟨m, e, plus, minus, value⟩ :=
    (positional_digitsText ((Binary.ofBits x.toBits).shortest .up)).readFloat?_eq
  refine ⟨nearest m e, ?_, plus, minus⟩
  have small := denotes.abs_lt
  rw [abs_eq_value denotes] at small
  have rounded := value ▸ near_shortest any (canonical_ofBits x.toBits) .up
  exact denotes_nearest_iff.2 ⟨rounded, by rwa [abs_of_pos (Binary.value_pos any)]⟩

/-- **A finite float is read from its text**, bit for bit. -/
theorem readFloat?_showFloat {x : Float} (finite : x.isFinite = true) :
    readFloat? (showFloat x).toList = some x := by
  obtain ⟨p, denotes⟩ := isFinite_iff.1 finite
  by_cases zero : (Binary.ofBits x.toBits).significand = 0
  · rcases eq_zero_of_significand zero with rfl | rfl <;> decide +kernel
  obtain ⟨size, own, plus, minus⟩ := exists_read_digits denotes zero
  have apart : p ≠ 0 := by
    rw [← abs_pos, abs_eq_value denotes]
    exact Binary.value_pos zero
  have signed := valueOf_bits denotes.canonical
  rw [denotes.value] at signed
  have shown : showFloat x = plain.finite x := by
    obtain ⟨notNaN, notInf⟩ := isNaN_of_canonical denotes.canonical
    unfold showFloat Layout.render
    rw [notNaN, notInf, if_neg Bool.false_ne_true, if_neg Bool.false_ne_true]
  rw [shown, Layout.finite, String.toList_ofList]
  by_cases sign : x.toBits >>> 63 = 1
  · have negative : p = -(Binary.ofBits x.toBits).value := by
      rw [if_pos sign] at signed
      exact signed
    rw [isSignNegative, if_pos (decide_eq_true sign)]
    refine minus.trans (congrArg some ?_)
    exact (negative ▸ own.neg).eq_of_ne_zero denotes apart
  · have positive : p = (Binary.ofBits x.toBits).value := by
      rw [if_neg sign] at signed
      exact signed
    rw [isSignNegative, if_neg (by simpa using sign)]
    refine plus.trans (congrArg some ?_)
    exact (positive ▸ own).eq_of_ne_zero denotes apart

end LoadTest.Decimal
