/-
**The characters of number literals.**

A number literal is made of digits, letters, signs and points, so there is neither a blank nor any
other mark in it, and it does not merge with what stands around it.

* `Literal.isPart`: a character that a literal may have;
* `Literal.isPart_of_parse?`, `Literal.isPart_of_readFloat?`: a literal has some, and no others.
-/

import Mathlib.Data.List.TakeWhile
import LoadTest.Proofs.Text.Trimmed
import LoadTest.Decimal.Literal

namespace LoadTest.Decimal

open Text

namespace Literal

/-- A digit, a letter, a sign or a point. -/
def isPart (c : Char) : Bool := c.isAlphanum || c = '+' || c = '-' || c = '.'

theorem isPart_of_isDigit {c : Char} (digit : c.isDigit = true) : isPart c = true := by
  simp [isPart, Char.isAlphanum, digit]

/-- A character whose small form is a small letter is a letter. -/
theorem isPart_of_toLower {c : Char} (lower : c.toLower.isLower = true) : isPart c = true := by
  have letter : c.isAlpha = true := by
    refine Bool.or_eq_true_iff.2 ?_
    unfold Char.toLower at lower
    split at lower
    · rename_i upper
      exact .inl (decide_eq_true upper)
    · exact .inr lower
  simp [isPart, Char.isAlphanum, letter]

theorem toNat_bounds {c : Char} (part : isPart c = true) : 43 ≤ c.toNat ∧ c.toNat ≤ 122 := by
  unfold isPart Char.isAlphanum Char.isAlpha Char.isUpper Char.isLower Char.isDigit at part
  simp only [Bool.or_eq_true, Bool.and_eq_true, decide_eq_true_eq] at part
  rcases part with (((((upper | lower) | digit) | rfl) | rfl) | rfl)
  · have least : 65 ≤ c.toNat := upper.1
    have most : c.toNat ≤ 90 := upper.2
    omega
  · have least : 97 ≤ c.toNat := lower.1
    have most : c.toNat ≤ 122 := lower.2
    omega
  · have least : 48 ≤ c.toNat := digit.1
    have most : c.toNat ≤ 57 := digit.2
    omega
  · decide
  · decide
  · decide

/-- A literal has no blanks. -/
theorem isBlank_of_isPart {c : Char} (part : isPart c = true) : isBlank c = false := by
  obtain ⟨least, most⟩ := toNat_bounds part
  simp [isBlank, Ranges.contains, blankRanges]
  omega

/-! ### What is read as a literal -/

variable {text : List Char}

/-- A sign is a part of a literal like what follows it. -/
theorem isPart_of_splitSign (each : ∀ c ∈ (splitSign text).2, isPart c = true) :
    ∀ c ∈ text, isPart c = true := by
  unfold splitSign at each
  split at each
  · exact List.forall_mem_cons.2 ⟨by decide, each⟩
  · exact List.forall_mem_cons.2 ⟨by decide, each⟩
  · exact each

theorem isPart_of_exponent? {exponent : ℤ} (read : exponent? text = some exponent) :
    ∀ c ∈ text, isPart c = true := by
  unfold exponent? at read
  split at read
  · exact fun _ absent => absurd absent List.not_mem_nil
  · rename_i letter rest
    split at read
    · rename_i isLetter
      have first : isPart letter = true := by
        rcases isLetter with rfl | rfl <;> decide
      refine List.forall_mem_cons.2 ⟨first, isPart_of_splitSign ?_⟩
      dsimp only at read
      split at read
      · contradiction
      · rename_i whole
        have digits : ∀ c ∈ (splitSign rest).2, c.isDigit = true := by
          simpa using (Bool.or_eq_false_iff.1 (eq_false_of_ne_true whole)).2
        exact fun c inside => isPart_of_isDigit (digits c inside)
    · contradiction

theorem isPart_of_decimal? {magnitude : Magnitude} (read : decimal? text = some magnitude) :
    text ≠ [] ∧ ∀ c ∈ text, isPart c = true := by
  have leading (text : List Char) : ∀ c ∈ text.takeWhile Char.isDigit, isPart c = true :=
    fun c inside => isPart_of_isDigit (List.mem_takeWhile_imp inside)
  refine ⟨?_, ?_⟩
  · rintro rfl
    contradiction
  · rw [← List.takeWhile_append_dropWhile (p := Char.isDigit) (l := text), List.forall_mem_append]
    refine ⟨leading text, ?_⟩
    unfold decimal? at read
    generalize text.dropWhile Char.isDigit = rest at read
    dsimp only at read
    split at read
    · rename_i more
      split at read
      · contradiction
      obtain ⟨exponent, own, -⟩ := Option.map_eq_some_iff.1 read
      refine List.forall_mem_cons.2 ⟨by decide, ?_⟩
      rw [← List.takeWhile_append_dropWhile (p := Char.isDigit) (l := more), List.forall_mem_append]
      exact ⟨leading more, isPart_of_exponent? own⟩
    · split at read
      · contradiction
      obtain ⟨exponent, own, -⟩ := Option.map_eq_some_iff.1 read
      exact isPart_of_exponent? own

theorem isPart_of_magnitude? {magnitude : Magnitude} (read : magnitude? text = some magnitude) :
    text ≠ [] ∧ ∀ c ∈ text, isPart c = true := by
  -- The words have small letters only.
  have word (letters : List Char) (some : letters ≠ []) (small : letters.all Char.isLower = true)
      (same : text.map Char.toLower = letters) : text ≠ [] ∧ ∀ c ∈ text, isPart c = true := by
    refine ⟨fun nothing => some (by rw [← same, nothing]; rfl), fun c inside => ?_⟩
    exact isPart_of_toLower (List.all_eq_true.1 small _ (same ▸ List.mem_map_of_mem inside))
  unfold magnitude? at read
  dsimp only at read
  split at read
  · rename_i infinite
    rcases infinite with same | same <;> exact word _ (List.cons_ne_nil _ _) (by decide) same
  · split at read
    · rename_i same
      exact word _ (List.cons_ne_nil _ _) (by decide) same
    · exact isPart_of_decimal? read

/-- **A literal is made of digits, letters, signs and points.** -/
theorem isPart_of_parse? {literal : Literal} (read : parse? text = some literal) :
    text ≠ [] ∧ ∀ c ∈ text, isPart c = true := by
  obtain ⟨magnitude, own, -⟩ := Option.map_eq_some_iff.1 read
  obtain ⟨some, each⟩ := isPart_of_magnitude? own
  refine ⟨?_, isPart_of_splitSign each⟩
  rintro rfl
  exact some rfl

/-- **A literal has no blank in it**, nor any other character than digits, letters, signs and
points. -/
theorem isPart_of_readFloat? {value : Float} (read : readFloat? text = some value) :
    Solid text ∧ ∀ c ∈ text, isPart c = true := by
  obtain ⟨literal, own, -⟩ := Option.map_eq_some_iff.1 read
  obtain ⟨some, each⟩ := isPart_of_parse? own
  exact ⟨solid_of_each some fun c inside => isBlank_of_isPart (each c inside), each⟩

end Literal

end LoadTest.Decimal
