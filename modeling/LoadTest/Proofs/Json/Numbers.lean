/-
**Numbers that are read, and read again.**

A text of a number is read as a whole number of 64 bits or as a finite float: what is beyond all
floats is refused, and digits that are dropped only make the number smaller. A whole number that is
written is read as itself; for a float this is a property of its text.

* `Number.Kept`: a number that can come from a text;
* `Json.kept_of_numberOf?`, `Json.isFinite_toFloat`: what is read is such a number, and finite;
* `Json.IsExact`: a float that is read from its own text;
* `Json.exists_text`: a number that is written is read back.
-/

import LoadTest.Proofs.Float.Finite
import LoadTest.Proofs.Json.Written
import LoadTest.Proofs.Text.Digits

namespace LoadTest

open Decimal Rounding Text

/-- **A number that can come from a text**: a whole number of 64 bits with its sign or without, or a
finite float. -/
def Number.Kept : Number → Prop
  | .natural value => value ≤ maxWord
  | .negative value => value ≠ 0 ∧ value ≤ maxWord / 2 + 1
  | .float value => value.isFinite = true

namespace Json

/-! ### Floats that are read -/

section Floats

open Numeral

theorem append?_le {n next : ℕ} {c : Char} (appended : append? n c = some next) :
    next ≤ maxWord := by
  unfold append? at appended
  dsimp only at appended
  split at appended
  · rename_i fits
    exact Option.some.inj appended ▸ fits
  · contradiction

theorem leading_cons (n : ℕ) (c : Char) (rest : List Char) :
    leading n (c :: rest) = match append? n c with
      | some next => leading next rest
      | none => (n, rest.length + 1) := by rfl

theorem leading_le {n : ℕ} (fits : n ≤ maxWord) (text : List Char) :
    (leading n text).1 ≤ maxWord := by
  induction text generalizing n with
  | nil => exact fits
  | cons c rest ih =>
    rw [leading_cons]
    cases appended : append? n c with
    | some next => exact ih (append?_le appended)
    | none => exact fits

/-- **The digits of a numeral fit 64 bits.** -/
theorem significand_le (text : List Char) : (ofText text).significand ≤ maxWord :=
  leading_le (leading_le (Nat.zero_le _) _) _

/-- A float that denotes a number of at most 64 bits, with no minus sign. -/
def Word (x : Float) : Prop := ∃ p, Denotes x p ∧ 0 ≤ p ∧ p ≤ 2 ^ 64

theorem Word.isFinite {x : Float} (word : Word x) : x.isFinite = true := by
  obtain ⟨p, denotes, -⟩ := word
  exact isFinite_iff.2 ⟨p, denotes⟩

theorem word_ofNat {n : ℕ} (fits : n ≤ maxWord) : Word (Float.ofNat n) := by
  have bound : n ≤ 2 ^ 64 := fits.trans (by decide)
  refine ⟨near n, denotes_natCast bound, near_nonneg (Nat.cast_nonneg n), ?_⟩
  have kept : near (((1 : ℤ) : ℚ) * 2 ^ (64 : ℤ)) = ((1 : ℤ) : ℚ) * 2 ^ (64 : ℤ) :=
    near_grid (by decide) (by norm_num)
  rw [Int.cast_one, one_mul] at kept
  have top : near (2 ^ 64 : ℚ) = 2 ^ 64 := kept
  rw [← top]
  exact near_mono (by exact_mod_cast bound)

/-- Whole digits are read as the nearest float. -/
theorem word_nearest {n : ℕ} (fits : n ≤ maxWord) : Word (nearest n 0) := by
  have same : nearest n 0 = Float.ofNat n := by
    unfold nearest
    by_cases zero : n = 0
    · subst zero
      rfl
    · have digits : (Nat.toDigits 10 n).length ≤ 20 := by
        rw [Nat.length_toDigits_le_iff (by decide) (by decide)]
        exact fits.trans_lt (by decide)
      dsimp only
      rw [if_neg (not_or.2 ⟨zero, by omega⟩), if_neg (by omega)]
      rfl
  rw [same]
  exact word_ofNat fits

/-- A quotient with a power of ten is no larger. -/
theorem Word.div {x : Float} (word : Word x) {n : ℕ} (most : n ≤ 308) : Word (x / power n) := by
  obtain ⟨p, denotes, nonneg, bound⟩ := word
  obtain ⟨q, divisor, one⟩ := denotes_power most
  have positive : 0 < q := zero_lt_one.trans_le one
  have quotient : p / q ≤ p := div_le_self nonneg one
  have least : 0 ≤ p / q := div_nonneg nonneg positive.le
  have range : InRange (p / q) := by
    apply inRange_of_le
    rw [abs_of_nonneg least]
    refine (quotient.trans bound).trans ?_
    norm_num
  refine ⟨near (p / q), denotes.div divisor positive.ne' range, near_nonneg least, ?_⟩
  rw [← denotes.near] at bound
  exact (near_mono quotient).trans bound

/-- **What is scaled is finite**, if it is not refused. -/
theorem scale_isFinite {value result : Float} {exponent : ℤ} (word : Word value)
    (scaled : scale value exponent = some result) : result.isFinite = true := by
  fun_induction scale value exponent with
  | case1 | case6 => exact Option.some.inj scaled ▸ word.isFinite
  | case2 | case4 => contradiction
  | case3 _ _ _ _ _ _ finite => exact Option.some.inj scaled ▸ finite
  | case5 value exponent negative near =>
    have most : exponent.natAbs ≤ 308 := by
      unfold maxPower at near
      omega
    exact Option.some.inj scaled ▸ (word.div most).isFinite
  | case7 value exponent _ _ _ ih => exact ih (word.div le_rfl) scaled

end Floats

/-! ### Numbers that are read -/

theorem isFinite_neg {x : Float} (finite : x.isFinite = true) : (-x).isFinite = true := by
  obtain ⟨p, denotes⟩ := isFinite_iff.1 finite
  exact isFinite_iff.2 ⟨-p, denotes.neg⟩

/-- **A number that is read is a whole one of 64 bits, or a finite float.** -/
theorem kept_of_numberOf? {text : List Char} {number : Number}
    (read : numberOf? text = some number) :
    number.Kept := by
  unfold numberOf? at read
  dsimp only at read
  split at read
  · rename_i whole
    obtain rfl := Option.some.inj read
    simp only [Bool.and_eq_true, decide_eq_true_eq] at whole
    exact whole.2
  · split at read
    · rename_i whole
      obtain rfl := Option.some.inj read
      simp only [Bool.and_eq_true, decide_eq_true_eq] at whole
      exact ⟨whole.1.2, whole.2⟩
    · obtain ⟨value, scaled, rfl⟩ := Option.map_eq_some_iff.1 read
      have finite := scale_isFinite (word_nearest (significand_le _)) scaled
      unfold signed
      split
      · exact isFinite_neg finite
      · exact finite

/-- Every number that is read is a finite float. -/
theorem isFinite_toFloat {number : Number} (kept : number.Kept) :
    number.toFloat.isFinite = true := by
  cases number with
  | natural value => exact (word_ofNat kept).isFinite
  | negative value =>
    obtain ⟨-, most⟩ := kept
    exact isFinite_neg (word_ofNat (most.trans (by decide))).isFinite
  | float value => exact kept

/-! ### Numbers that are written -/

/-- **A float that is read from its own text.** -/
def IsExact (x : Float) : Prop := numberOf? (Json.layout.finite x).toList = some (.float x)

theorem all_toDigits (n : ℕ) : (Nat.toDigits 10 n).all Char.isDigit = true :=
  List.all_eq_true.2 isDigit_toDigits

theorem numberOf?_natural {n : ℕ} (fits : n ≤ maxWord) :
    numberOf? (Nat.toDigits 10 n) = some (.natural n) := by
  unfold numberOf?
  rw [splitSign_toDigits]
  dsimp only
  rw [digitsValue_toDigits, all_toDigits, if_pos (by simpa using fits)]

theorem numberOf?_negative {n : ℕ} (some : n ≠ 0) (fits : n ≤ maxWord / 2 + 1) :
    numberOf? ('-' :: Nat.toDigits 10 n) = .some (.negative n) := by
  unfold numberOf?
  have sign : Literal.splitSign ('-' :: Nat.toDigits 10 n) = (true, Nat.toDigits 10 n) := rfl
  rw [sign]
  dsimp only
  rw [digitsValue_toDigits, all_toDigits, if_neg (by simp), if_pos (by simpa using ⟨some, fits⟩)]

/-- **A number that is written is read back**, a float if its text is exact. -/
theorem exists_text {number : Number} (kept : number.Kept)
    (exact : ∀ x, number = .float x → IsExact x) : ∃ text, number.written = .number text ∧
      numberOf? text = some number := by
  cases number with
  | natural value => exact ⟨_, rfl, numberOf?_natural kept⟩
  | negative value => exact ⟨_, rfl, numberOf?_negative kept.1 kept.2⟩
  | float value =>
    have token : (Number.float value).token = .number (layout.finite value).toList := if_pos kept
    refine ⟨_, ?_, exact value rfl⟩
    unfold Number.written
    rw [token]

end Json

end LoadTest
