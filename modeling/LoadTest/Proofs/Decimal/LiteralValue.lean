/-
**The number of a literal.**

A literal in digits is a decimal number, and its float denotes the nearest number of a float. A
number that is too large has an infinite float, and so do the words for infinity; neither denotes
anything, nor does what is no number.

* `Literal.number?`: the number that a literal is;
* `Literal.denotes_value_iff`: what the float of a literal denotes.
-/

import LoadTest.Proofs.Float.Scientific

namespace LoadTest.Decimal.Literal

open Rounding

/-- The number that a literal is, if it is in digits. -/
def number? : Literal → Option ℚ
  | ⟨negative, .finite digits exponent⟩ =>
    some (if negative then -(digits * 10 ^ exponent) else digits * 10 ^ exponent)
  | ⟨_, .infinite⟩ | ⟨_, .notANumber⟩ => none

/-- The words denote nothing. -/
theorem not_denotes_word {magnitude : Magnitude} {p : ℚ}
    (word : magnitude = .infinite ∨ magnitude = .notANumber) : ¬ Denotes magnitude.value p := by
  rintro ⟨canonical, -⟩
  rcases word with rfl | rfl
  · exact canonical
  · exact canonical

/-- **The float of a literal denotes the number nearest to it**, if it is in digits and not too
large. -/
theorem denotes_value_iff {literal : Literal} {p : ℚ} : Denotes literal.value p ↔
    ∃ q ∈ literal.number?, near q = p ∧ |p| < 2 ^ (1024 : ℤ) := by
  obtain ⟨negative, magnitude⟩ := literal
  have signed : Denotes (Literal.value ⟨negative, magnitude⟩) p ↔
      Denotes magnitude.value (if negative then -p else p) := by
    cases negative with
    | true => exact denotes_neg_iff
    | false => exact Iff.rfl
  rw [signed]
  cases magnitude with
  | infinite => exact iff_of_false (not_denotes_word (.inl rfl)) fun ⟨_, absent, _⟩ => nomatch absent
  | notANumber => exact iff_of_false (not_denotes_word (.inr rfl)) fun ⟨_, absent, _⟩ => nomatch absent
  | finite digits exponent =>
    refine denotes_nearest_iff.trans ?_
    simp only [number?, Option.mem_some_iff, exists_eq_left']
    cases negative with
    | true => rw [if_pos rfl, if_pos rfl, near_neg, abs_neg, neg_eq_iff_eq_neg]
    | false => exact Iff.rfl

end LoadTest.Decimal.Literal
