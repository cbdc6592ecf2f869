/-
**Decimal digits.**

* `Text.digit_bounds`: the code points of the digits, which are no blanks and have no case;
* `Text.splitSign_digit`, `Text.magnitude?_digit`: digits have no sign and are no words;
* `Text.isDigit_toDigits`, `Text.digitsValue_toDigits`: a whole number is written in digits and is
  their value.
-/

import LoadTest.Decimal.Literal
import LoadTest.Text.Blank

namespace LoadTest.Text

open Decimal

/-- The code points of the digits. -/
theorem digit_bounds {c : Char} (isDigit : c.isDigit = true) : 48 ≤ c.toNat ∧ c.toNat ≤ 57 := by
  unfold Char.isDigit at isDigit
  rw [Bool.and_eq_true, decide_eq_true_eq, decide_eq_true_eq] at isDigit
  exact isDigit

theorem isBlank_digit {c : Char} (isDigit : c.isDigit = true) : isBlank c = false := by
  obtain ⟨least, most⟩ := digit_bounds isDigit
  simp [isBlank, Ranges.contains, blankRanges]
  omega

theorem toLower_digit {c : Char} (isDigit : c.isDigit = true) : c.toLower = c := by
  obtain ⟨least, most⟩ := digit_bounds isDigit
  refine dif_neg fun upper => ?_
  have lower : 65 ≤ c.toNat := upper.1
  omega

theorem isLower_digit {c : Char} (isDigit : c.isDigit = true) : c.isLower = false := by
  obtain ⟨least, most⟩ := digit_bounds isDigit
  cases lower : c.isLower with
  | false => rfl
  | true =>
    unfold Char.isLower at lower
    rw [Bool.and_eq_true, decide_eq_true_eq] at lower
    have above : 97 ≤ c.toNat := lower.1
    omega

/-- A character that is no digit is not one of the digits. -/
theorem ne_of_isDigit {c other : Char} (isDigit : c.isDigit = true)
    (noDigit : other.isDigit = false) : c ≠ other := by
  rintro rfl
  rw [isDigit] at noDigit
  contradiction

theorem splitSign_digit {c : Char} (isDigit : c.isDigit = true) (rest : List Char) :
    Literal.splitSign (c :: rest) = (false, c :: rest) := by
  unfold Literal.splitSign
  split
  · rename_i heads
    exact absurd (List.cons.inj heads).1 (ne_of_isDigit isDigit (by decide))
  · rename_i heads
    exact absurd (List.cons.inj heads).1 (ne_of_isDigit isDigit (by decide))
  · rfl

/-- A text that begins with a digit is no word. -/
theorem magnitude?_digit {c : Char} {rest : List Char} (isDigit : c.isDigit = true) :
    Literal.magnitude? (c :: rest) = Literal.decimal? (c :: rest) := by
  have other (d : Char) (word : List Char) (noDigit : d.isDigit = false) :
      (c :: rest).map Char.toLower ≠ d :: word := by
    intro same
    have first := (List.cons.inj same).1
    rw [toLower_digit isDigit] at first
    exact ne_of_isDigit isDigit noDigit first
  unfold Literal.magnitude?
  dsimp only
  rw [if_neg (not_or.2 ⟨other _ _ (by decide), other _ _ (by decide)⟩),
    if_neg (other _ _ (by decide))]

/-- **A whole number is written in digits.** -/
theorem isDigit_toDigits {n : Nat} : ∀ c ∈ Nat.toDigits 10 n, c.isDigit = true :=
  fun _ member => Nat.isDigit_of_mem_toDigits (by decide) (by decide) member

theorem splitSign_toDigits (n : Nat) :
    Literal.splitSign (Nat.toDigits 10 n) = (false, Nat.toDigits 10 n) := by
  have each := @isDigit_toDigits n
  obtain ⟨c, rest, split⟩ := List.exists_cons_of_ne_nil (@Nat.toDigits_ne_nil n 10)
  rw [split] at each ⊢
  exact splitSign_digit (each c List.mem_cons_self) rest

/-- **A whole number is the value of its digits.** -/
theorem digitsValue_toDigits (n : Nat) : digitsValue (Nat.toDigits 10 n) = n :=
  Nat.ofDigitChars_ten_toDigits

end LoadTest.Text
