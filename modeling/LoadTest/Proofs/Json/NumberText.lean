/-
**The texts of numbers are numbers.**

Every number is written in the form that a text may have it: no zero leads unless it stands before a
point or alone, and there are digits on both sides of a point and in an exponent. For a float this
holds because the decimal that is selected for it is zero only if the float is.

* `NumberPart.IsNumber`, `NumberPart.Unsigned`: a text that is a number, and one without a sign;
* `Decimal.shortest_pos`: the decimal selected for a value other than zero is none;
* `Decimal.isNumber_finite`: the text of a float is a number;
* `Number.isNumber_token`: so is the token of every number that has one.
-/

import Mathlib.Tactic.Linarith
import LoadTest.Json.Writer
import LoadTest.Proofs.Text.Digits

namespace LoadTest

namespace Json

namespace NumberPart

/-- **A text that is a number** from its first to its last character. -/
def IsNumber (text : List Char) : Prop := ∃ c rest start last, text = c :: rest ∧
  first? c = some start ∧ rest.foldlM next? start = some last ∧ last.isEnd = true

/-- A text that is a number without a sign, and may have one. -/
def Unsigned (text : List Char) : Prop :=
  ∃ last, text.foldlM next? sign = some last ∧ last.isEnd = true

theorem Unsigned.isNumber {text : List Char} (number : Unsigned text) : IsNumber text := by
  obtain ⟨last, read, done⟩ := number
  cases text with
  | nil =>
    obtain rfl := Option.some.inj read
    contradiction
  | cons c rest =>
    rw [List.foldlM_cons] at read
    obtain ⟨start, first, read⟩ := Option.bind_eq_some_iff.1 read
    refine ⟨c, rest, start, last, rfl, ?_, read, done⟩
    change (if c = '-' then none else first? c) = some start at first
    split at first
    · contradiction
    · exact first

theorem Unsigned.neg {text : List Char} (number : Unsigned text) : IsNumber ('-' :: text) := by
  obtain ⟨last, read, done⟩ := number
  exact ⟨'-', text, sign, last, rfl, rfl, read, done⟩

/-- A part behind which digits lead to another one, in which they stay. -/
def Takes (part digits : NumberPart) : Prop :=
  (∀ c, c.isDigit = true → part.next? c = some digits) ∧
    ∀ c, c.isDigit = true → digits.next? c = some digits

theorem foldlM_digits {part digits : NumberPart} (takes : part.Takes digits) {text : List Char}
    (some : text ≠ []) (each : ∀ c ∈ text, c.isDigit = true) :
    text.foldlM next? part = .some digits := by
  have stays : ∀ more : List Char, (∀ c ∈ more, c.isDigit = true) →
      more.foldlM next? digits = .some digits := by
    intro more all
    induction more with
    | nil => rfl
    | cons c rest ih =>
      rw [List.foldlM_cons, takes.2 c (all c List.mem_cons_self)]
      exact ih fun other member => all other (List.mem_cons_of_mem _ member)
  obtain ⟨c, rest, rfl⟩ := List.exists_cons_of_ne_nil some
  rw [List.foldlM_cons, takes.1 c (each c List.mem_cons_self)]
  exact stays rest fun other member => each other (List.mem_cons_of_mem _ member)

theorem takes_whole : whole.Takes whole :=
  ⟨fun _ digit => if_pos digit, fun _ digit => if_pos digit⟩

theorem takes_point : point.Takes fraction :=
  ⟨fun _ digit => if_pos digit, fun _ digit => if_pos digit⟩

theorem takes_letterSign : letterSign.Takes exponent :=
  ⟨fun _ digit => if_pos digit, fun _ digit => if_pos digit⟩

end NumberPart

end Json

open Json NumberPart Text

/-! ### Whole numbers -/

/-- **No zero leads the digits of a number** other than zero. -/
theorem toDigits_pos {n : ℕ} (positive : 0 < n) : ∃ c more, Nat.toDigits 10 n = c :: more ∧
    sign.next? c = some .whole ∧ ∀ d ∈ more, d.isDigit = true := by
  induction n using Nat.strongRecOn with
  | ind n ih =>
    by_cases small : n < 10
    · refine ⟨n.digitChar, [], Nat.toDigits_of_lt_base small, ?_, by simp⟩
      have all : ∀ n < 10, 0 < n → sign.next? n.digitChar = some .whole := by
        decide
      exact all n small positive
    · obtain ⟨c, more, digits, isFirst, each⟩ := ih (n / 10) (by omega) (by omega)
      refine ⟨c, more ++ [(n % 10).digitChar], ?_, isFirst, ?_⟩
      · rw [Nat.toDigits_of_base_le (by decide) (by omega), digits]
        rfl
      · intro d member
        rcases List.mem_append.1 member with old | new
        · exact each d old
        · obtain rfl := List.mem_singleton.1 new
          have all : ∀ n < 10, (Nat.digitChar n).isDigit = true := by
            decide
          exact all _ (Nat.mod_lt _ (by decide))

theorem foldlM_first {c : Char} {more : List Char} (isFirst : sign.next? c = some .whole)
    (each : ∀ d ∈ more, d.isDigit = true) : (c :: more).foldlM next? .sign = some .whole := by
  rw [List.foldlM_cons, isFirst]
  cases more with
  | nil => rfl
  | cons d rest => exact foldlM_digits takes_whole (List.cons_ne_nil _ _) each

theorem foldlM_toDigits {n : ℕ} (positive : 0 < n) :
    (Nat.toDigits 10 n).foldlM next? .sign = some .whole := by
  obtain ⟨c, more, digits, isFirst, each⟩ := toDigits_pos positive
  rw [digits]
  exact foldlM_first isFirst each

theorem unsigned_toDigits (n : ℕ) : Unsigned (Nat.toDigits 10 n) := by
  rcases Nat.eq_zero_or_pos n with rfl | positive
  · exact ⟨.zero, by decide, rfl⟩
  · exact ⟨.whole, foldlM_toDigits positive, rfl⟩

theorem isDigit_replicate (k : ℕ) : ∀ c ∈ List.replicate k '0', c.isDigit = true := by
  intro c member
  rw [List.eq_of_mem_replicate member]
  decide

/-! ### Decimals -/

namespace Decimal

section Selection

variable {x : Binary}

/-- What is selected on a grid reads back. -/
theorem readsBack_onGrid {tie : Tie} {grid : ℤ} {d : Digits} (found : x.onGrid tie grid = some d) :
    x.readsBack d = true := by
  unfold Binary.onGrid at found
  dsimp only at found
  generalize low : x.readsBack ⟨x.floorOn grid, grid⟩ = lower at found
  generalize high : x.readsBack ⟨x.floorOn grid + 1, grid⟩ = upper at found
  cases lower with
  | false =>
    cases upper with
    | false => contradiction
    | true => exact Option.some.inj found ▸ high
  | true =>
    cases upper with
    | false => exact Option.some.inj found ▸ low
    | true =>
      dsimp only at found
      split at found
      · exact Option.some.inj found ▸ low
      · exact Option.some.inj found ▸ high
      · exact Option.some.inj found ▸ high
      · split at found
        · exact Option.some.inj found ▸ low
        · exact Option.some.inj found ▸ high

variable (some : x.significand ≠ 0)

include some

/-- Zero is not among the reals that round to another value. -/
theorem readsBack_zero (grid : ℤ) : x.readsBack ⟨0, grid⟩ = false := by
  have below : ∀ low exponent, 0 < low → compareScaled 0 grid low exponent = .lt := by
    intro low exponent positive
    unfold compareScaled
    rw [Nat.zero_mul, Nat.zero_mul, Nat.compare_eq_lt]
    exact Nat.mul_pos (Nat.mul_pos positive (Nat.pow_pos (by decide))) (Nat.pow_pos (by decide))
  have low : 0 < if x.narrowBelow then 4 * x.significand - 1 else 4 * x.significand - 2 := by
    split <;> omega
  unfold Binary.readsBack
  simp [below _ _ low]

theorem onGrid_pos {tie : Tie} {grid : ℤ} {d : Digits} (found : x.onGrid tie grid = .some d) :
    0 < d.digits := by
  have reads := readsBack_onGrid found
  obtain ⟨digits, exponent⟩ := d
  rcases Nat.eq_zero_or_pos digits with rfl | positive
  · rw [readsBack_zero some] at reads
    contradiction
  · exact positive

theorem exact_pos : 0 < x.exact.digits :=
  Nat.mul_pos (Nat.mul_pos (Nat.pos_of_ne_zero some) (Nat.pow_pos (by decide)))
    (Nat.pow_pos (by decide))

end Selection

theorem strip_pos {d : Digits} (positive : 0 < d.digits) : 0 < d.strip.digits := by
  fun_induction Digits.strip d with
  | case1 d divides ih =>
    apply ih
    show 0 < d.digits / 10
    omega
  | case2 d _ => exact positive

/-- **The decimal selected for a value other than zero is none.** -/
theorem shortest_pos {x : Binary} (some : x.significand ≠ 0) (tie : Tie) :
    0 < (x.shortest tie).digits := by
  unfold Binary.shortest
  rw [if_neg some]
  dsimp only
  split
  · rename_i d found
    obtain ⟨n, -, own⟩ := List.exists_of_findSome?_eq_some found
    exact strip_pos (onGrid_pos some own)
  · exact strip_pos (exact_pos some)

/-! ### Layouts -/

section Layouts

variable {n : ℕ} (positive : 0 < n)

include positive

theorem unsigned_positional (layout : Layout) (exponent : ℤ) :
    Unsigned (layout.positionalText (Nat.toDigits 10 n) exponent) := by
  have whole := foldlM_toDigits positive
  obtain ⟨c, more, digits, isFirst, each⟩ := toDigits_pos positive
  unfold Layout.positionalText
  dsimp only
  split
  · -- zeros behind the digits, and a point and a zero if the layout has them
    have zeros : (Nat.toDigits 10 n ++ List.replicate exponent.toNat '0').foldlM next? .sign =
        some .whole := by
      rw [List.foldlM_append, whole]
      cases exponent.toNat with
      | zero => rfl
      | succ k => exact foldlM_digits takes_whole (by simp [List.replicate]) (isDigit_replicate _)
    split
    · exact ⟨.fraction, by rw [List.foldlM_append, zeros]; rfl, rfl⟩
    · exact ⟨.whole, by rw [List.append_nil]; exact zeros, rfl⟩
  split
  · -- the point among the digits
    generalize place : (exponent + (Nat.toDigits 10 n).length - 1 + 1).toNat = k
    have inside : 0 < k ∧ k < (Nat.toDigits 10 n).length := by omega
    have before : ((Nat.toDigits 10 n).take k).foldlM next? .sign = some .whole := by
      obtain ⟨j, rfl⟩ := Nat.exists_eq_add_of_lt inside.1
      rw [digits, Nat.zero_add, List.take_succ_cons]
      exact foldlM_first isFirst fun d member => each d (List.mem_of_mem_take member)
    have behind : (Nat.toDigits 10 n).drop k ≠ [] := by
      simpa using inside.2
    refine ⟨.fraction, ?_, rfl⟩
    rw [List.foldlM_append, before]
    exact foldlM_digits takes_point behind
      fun d member => isDigit_toDigits d (List.mem_of_mem_drop member)
  · -- zeros between the point and the digits
    refine ⟨.fraction, foldlM_digits takes_point (by simp [Nat.toDigits_ne_nil]) ?_, rfl⟩
    intro d member
    rcases List.mem_append.1 member with zero | digit
    · exact isDigit_replicate _ d zero
    · exact isDigit_toDigits d digit

theorem unsigned_exponent (exponent : ℤ) :
    Unsigned (Layout.exponentText (Nat.toDigits 10 n) exponent) := by
  obtain ⟨c, more, digits, isFirst, each⟩ := toDigits_pos positive
  have mantissa : ∃ part, ([c] ++ if more.isEmpty then [] else '.' :: more).foldlM next? .sign =
      some part ∧ part.next? 'e' = some .letter := by
    have first : [c].foldlM next? .sign = some .whole := foldlM_first isFirst (by simp)
    cases more with
    | nil => exact ⟨.whole, first, rfl⟩
    | cons d rest =>
      refine ⟨.fraction, ?_, rfl⟩
      rw [List.foldlM_append, first]
      exact foldlM_digits takes_point (List.cons_ne_nil _ _) each
  obtain ⟨part, read, letter⟩ := mantissa
  unfold Layout.exponentText
  rw [digits]
  dsimp only [List.take_succ_cons, List.take_zero, List.drop_succ_cons, List.drop_zero]
  generalize exponent + ((c :: more).length : ℤ) - 1 = lead
  have signed : NumberPart.letter.next? (if lead < 0 then '-' else '+') = some .letterSign := by
    split <;> rfl
  refine ⟨.exponent, ?_, rfl⟩
  rw [List.foldlM_append]
  change ((([c] ++ if more.isEmpty then [] else '.' :: more).foldlM next? .sign).bind _) = _
  rw [read, Option.bind_some, List.foldlM_cons, letter, Option.bind_eq_bind, Option.bind_some,
    List.foldlM_cons, signed]
  exact foldlM_digits takes_letterSign Nat.toDigits_ne_nil isDigit_toDigits

theorem unsigned_digitsText (layout : Layout) (exponent : ℤ) :
    Unsigned (layout.digitsText ⟨n, exponent⟩) := by
  unfold Layout.digitsText
  dsimp only
  split
  · exact unsigned_positional positive layout exponent
  · split
    · exact unsigned_positional positive layout exponent
    · exact unsigned_exponent positive exponent

end Layouts

/-- **The text of a float is a number.** -/
theorem isNumber_finite (x : Float) : IsNumber (Json.layout.finite x).toList := by
  generalize binary : Binary.ofBits x.toBits = value
  have unsigned : Unsigned (Json.layout.digitsText (value.shortest Json.layout.tie)) := by
    by_cases zero : value.significand = 0
    · have digits : value.shortest Json.layout.tie = ⟨0, 0⟩ := if_pos zero
      rw [digits]
      exact ⟨.fraction, by decide, rfl⟩
    · exact unsigned_digitsText (shortest_pos zero _) _ _
  unfold Layout.finite
  rw [binary, String.toList_ofList]
  split
  · exact unsigned.neg
  · exact unsigned.isNumber

end Decimal

/-- **The token of a number is a number**, or null where there is none. -/
theorem Number.isNumber_token (number : Number) : number.token = .null ∨
    ∃ text, number.token = .number text ∧ IsNumber text := by
  cases number with
  | natural value => exact .inr ⟨_, rfl, (unsigned_toDigits value).isNumber⟩
  | negative value => exact .inr ⟨_, rfl, (unsigned_toDigits value).neg⟩
  | float value =>
    rw [Number.token]
    split
    · exact .inr ⟨_, rfl, Decimal.isNumber_finite value⟩
    · exact .inl rfl

end LoadTest
