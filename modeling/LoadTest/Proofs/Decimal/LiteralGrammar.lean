/-
**The grammar of number literals.**

A literal is a sign, if it has one, before one of three words in any case, or before digits with a
point among or around them and an exponent, if it has one, behind them. What is read as a literal is
what is written so, and each part of it is found where the one before it ends.

* `Literal.Signed`, `Literal.Powered`, `Magnitude.Written`: a sign, an exponent, and what is between;
* `Literal.Written`: the texts of a literal;
* `Literal.parse?_eq_some_iff`: a text is read as a literal if it is one of its texts.
-/

import LoadTest.Proofs.Decimal.LiteralText
import LoadTest.Proofs.Text.Digits

namespace LoadTest.Decimal

open Text

/-- Digits and nothing else. -/
def Digital (text : List Char) : Prop := ∀ c ∈ text, c.isDigit = true

/-! ### The definitions -/

namespace Literal

/-- **A text with its sign**, a minus or a plus, or without one. -/
inductive Signed (body : List Char) : Bool → List Char → Prop
  | minus : Signed body true ('-' :: body)
  | plus : Signed body false ('+' :: body)
  | bare : Signed body false body

/-- **A power of ten behind digits**: the letter `e` in either case and digits with a sign, or
nothing. -/
inductive Powered : ℤ → List Char → Prop
  | none : Powered 0 []
  | written {letter : Char} {negative : Bool} {digits text : List Char}
    (mark : letter = 'e' ∨ letter = 'E') (signed : Signed digits negative text)
    (some : digits ≠ []) (digital : Digital digits) :
    Powered (if negative then -(digitsValue digits : ℤ) else digitsValue digits)
      (letter :: text)

end Literal

/-- **What is written without a sign**: a word, or digits with a power of ten, of which those behind
the point make the power smaller. -/
inductive Magnitude.Written : Magnitude → List Char → Prop
  | infinite {text : List Char} (word : text.map Char.toLower = ['i', 'n', 'f'] ∨
      text.map Char.toLower = ['i', 'n', 'f', 'i', 'n', 'i', 't', 'y']) : Written infinite text
  | notANumber {text : List Char} (word : text.map Char.toLower = ['n', 'a', 'n']) :
    Written notANumber text
  | whole {digits tail : List Char} {exponent : ℤ} (some : digits ≠ []) (digital : Digital digits)
    (powered : Literal.Powered exponent tail) :
    Written (finite (digitsValue digits) exponent) (digits ++ tail)
  | point {digits fraction tail : List Char} {exponent : ℤ} (some : digits ++ fraction ≠ [])
    (digital : Digital (digits ++ fraction)) (powered : Literal.Powered exponent tail) :
    Written (finite (digitsValue (digits ++ fraction)) (exponent - fraction.length))
      (digits ++ '.' :: (fraction ++ tail))

/-- **The texts of a literal.** -/
def Literal.Written (literal : Literal) (text : List Char) : Prop :=
  ∃ body, Signed body literal.negative text ∧ literal.magnitude.Written body

/-! ### Signs and powers -/

namespace Literal

variable {text body tail : List Char} {negative : Bool} {exponent : ℤ}

theorem signed_splitSign (text : List Char) : Signed (splitSign text).2 (splitSign text).1 text := by
  unfold splitSign
  split
  · exact .minus
  · exact .plus
  · exact .bare

/-- A sign is split off, if no other one follows it. -/
theorem Signed.splitSign_eq (signed : Signed body negative text)
    (plain : body.head? ≠ some '-' ∧ body.head? ≠ some '+') : splitSign text = (negative, body) := by
  cases signed with
  | minus | plus => rfl
  | bare =>
    unfold splitSign
    split
    · exact absurd rfl plain.1
    · exact absurd rfl plain.2
    · rfl

theorem head?_of_digital {digits : List Char} (digital : Digital digits) {c : Char}
    (noDigit : c.isDigit = false) : digits.head? ≠ some c := fun heads =>
  ne_of_isDigit (digital c (List.mem_of_head? heads)) noDigit rfl

theorem exponent?_eq_some_iff : exponent? text = some exponent ↔ Powered exponent text := by
  constructor
  · intro read
    unfold exponent? at read
    split at read
    · obtain rfl := Option.some.inj read
      exact .none
    · rename_i letter rest
      split at read
      · rename_i isLetter
        dsimp only at read
        split at read
        · contradiction
        · rename_i whole
          obtain ⟨some, all⟩ := Bool.or_eq_false_iff.1 (eq_false_of_ne_true whole)
          obtain rfl := Option.some.inj read
          exact .written isLetter (signed_splitSign rest) (List.isEmpty_eq_false_iff.1 some)
            (by simpa [Digital] using all)
      · contradiction
  · intro powered
    cases powered with
    | none => rfl
    | @written letter negative digits rest isLetter signed some digital =>
      have plain := signed.splitSign_eq ⟨head?_of_digital digital (by decide),
        head?_of_digital digital (by decide)⟩
      have whole : ¬ (digits.isEmpty || !digits.all Char.isDigit) = true := by
        simpa [some, Digital] using digital
      simp only [exponent?, if_pos isLetter, plain, if_neg whole]

/-- Digits end where a power begins. -/
theorem Powered.head? (powered : Powered exponent text) :
    ∀ c ∈ text.head?, c.isDigit = false ∧ c ≠ '.' := by
  cases powered with
  | none => exact fun _ absent => nomatch absent
  | written isLetter =>
    intro c same
    obtain rfl := Option.some.inj same
    rcases isLetter with rfl | rfl <;> decide

end Literal

/-! ### Digits -/

section Digits

variable {digits tail : List Char}

theorem takeWhile_digits (digital : Digital digits) (stops : ∀ c ∈ tail.head?, c.isDigit = false) :
    (digits ++ tail).takeWhile Char.isDigit = digits := by
  rw [List.takeWhile_append_of_pos digital]
  cases tail with
  | nil => exact List.append_nil _
  | cons c rest =>
    rw [List.takeWhile_cons_of_neg (by simp [stops c rfl]), List.append_nil]

theorem dropWhile_digits (digital : Digital digits) (stops : ∀ c ∈ tail.head?, c.isDigit = false) :
    (digits ++ tail).dropWhile Char.isDigit = tail := by
  rw [List.dropWhile_append_of_pos digital]
  cases tail with
  | nil => rfl
  | cons c rest => exact List.dropWhile_cons_of_neg (by simp [stops c rfl])

theorem digital_takeWhile (text : List Char) : Digital (text.takeWhile Char.isDigit) :=
  fun _ inside => List.mem_takeWhile_imp inside

end Digits

/-! ### Numbers -/

namespace Literal

variable {text : List Char} {magnitude : Magnitude}

/-- What is read as digits is written in digits. -/
theorem written_of_decimal? (read : decimal? text = some magnitude) : magnitude.Written text := by
  have parts := List.takeWhile_append_dropWhile (p := Char.isDigit) (l := text)
  have digital := digital_takeWhile text
  unfold decimal? at read
  generalize text.takeWhile Char.isDigit = digits at parts digital read
  generalize text.dropWhile Char.isDigit = rest at parts read
  subst parts
  dsimp only at read
  split at read
  · rename_i more
    have behind := List.takeWhile_append_dropWhile (p := Char.isDigit) (l := more)
    have fractional := digital_takeWhile more
    generalize more.takeWhile Char.isDigit = fraction at behind fractional read
    generalize more.dropWhile Char.isDigit = tail at behind read
    subst behind
    dsimp only at read
    split at read
    · contradiction
    · rename_i some
      obtain ⟨exponent, own, rfl⟩ := Option.map_eq_some_iff.1 read
      refine .point (fun none => some ?_) (List.forall_mem_append.2 ⟨digital, fractional⟩)
        (exponent?_eq_some_iff.1 own)
      obtain ⟨rfl, rfl⟩ := List.append_eq_nil_iff.1 none
      rfl
  · split at read
    · contradiction
    · rename_i some
      obtain ⟨exponent, own, rfl⟩ := Option.map_eq_some_iff.1 read
      have written := Magnitude.Written.whole (by simpa using some) digital
        (exponent?_eq_some_iff.1 own)
      simpa using written

/-- What begins with a point is no word. -/
theorem magnitude?_point (rest : List Char) : magnitude? ('.' :: rest) = decimal? ('.' :: rest) := by
  have other (d : Char) (word : List Char) (apart : '.' ≠ d) :
      ('.' :: rest).map Char.toLower ≠ d :: word := fun same => apart (List.cons.inj same).1
  unfold magnitude?
  dsimp only
  rw [if_neg (not_or.2 ⟨other _ _ (by decide), other _ _ (by decide)⟩),
    if_neg (other _ _ (by decide))]

/-- **Digits are read up to where they end**, and so is the power behind them. -/
theorem decimal?_whole {digits tail : List Char} {exponent : ℤ} (some : digits ≠ [])
    (digital : Digital digits) (powered : Powered exponent tail) :
    decimal? (digits ++ tail) = .some (.finite (digitsValue digits) exponent) := by
  have stops : ∀ c ∈ tail.head?, c.isDigit = false := fun c inside => (powered.head? c inside).1
  unfold decimal?
  rw [takeWhile_digits digital stops, dropWhile_digits digital stops]
  dsimp only
  split
  · rename_i rest
    exact absurd rfl (powered.head? '.' rfl).2
  · rw [List.isEmpty_eq_false_iff.2 some, exponent?_eq_some_iff.2 powered, List.append_nil]
    simp

/-- So are those around a point. -/
theorem decimal?_point {digits fraction tail : List Char} {exponent : ℤ}
    (some : digits ++ fraction ≠ []) (digital : Digital (digits ++ fraction))
    (powered : Powered exponent tail) : decimal? (digits ++ '.' :: (fraction ++ tail)) =
      .some (.finite (digitsValue (digits ++ fraction)) (exponent - fraction.length)) := by
  obtain ⟨front, back⟩ := List.forall_mem_append.1 digital
  have point : ∀ c ∈ ('.' :: (fraction ++ tail)).head?, c.isDigit = false := by
    rintro c same
    obtain rfl := Option.some.inj same
    decide
  have stops : ∀ c ∈ tail.head?, c.isDigit = false := fun c inside => (powered.head? c inside).1
  have any : (digits.isEmpty && fraction.isEmpty) = false :=
    eq_false_of_ne_true fun none => some (by simpa using none)
  unfold decimal?
  rw [takeWhile_digits front point, dropWhile_digits front point]
  show (if digits.isEmpty && ((fraction ++ tail).takeWhile Char.isDigit).isEmpty then none
    else (exponent? ((fraction ++ tail).dropWhile Char.isDigit)).map fun exponent =>
      Magnitude.finite (digitsValue (digits ++ (fraction ++ tail).takeWhile Char.isDigit))
        (exponent - ((fraction ++ tail).takeWhile Char.isDigit).length)) = _
  rw [takeWhile_digits back stops, dropWhile_digits back stops, any, if_neg Bool.false_ne_true,
    exponent?_eq_some_iff.2 powered]
  rfl

/-- **What is written without a sign is read as what it says**, and no sign is taken from it. -/
theorem magnitude?_of_written (written : magnitude.Written text) :
    magnitude? text = some magnitude ∧ text.head? ≠ some '-' ∧ text.head? ≠ some '+' := by
  have word (first : Char) (rest : List Char) (apart : first ≠ '-' ∧ first ≠ '+')
      (same : text.map Char.toLower = first :: rest) :
      text.head? ≠ some '-' ∧ text.head? ≠ some '+' := by
    have unlike (sign : Char) (kept : sign.toLower = sign) (other : first ≠ sign) :
        text.head? ≠ some sign := by
      intro heads
      have lower := congrArg List.head? same
      rw [List.head?_map, heads, Option.map_some, kept] at lower
      exact other (Option.some.inj lower).symm
    exact ⟨unlike '-' (by decide) apart.1, unlike '+' (by decide) apart.2⟩
  have number {c : Char} {more : List Char} (read : decimal? (c :: more) = some magnitude)
      (mark : c.isDigit = true ∨ c = '.') : magnitude? (c :: more) = some magnitude ∧
        (c :: more).head? ≠ some '-' ∧ (c :: more).head? ≠ some '+' := by
    rcases mark with isDigit | rfl
    · exact ⟨(magnitude?_digit isDigit).trans read, by simpa using
        ⟨ne_of_isDigit isDigit (by decide), ne_of_isDigit isDigit (by decide)⟩⟩
    · exact ⟨(magnitude?_point more).trans read, by simp⟩
  cases written with
  | infinite same =>
    refine ⟨if_pos same, ?_⟩
    rcases same with same | same <;> exact word 'i' _ (by decide) same
  | notANumber same =>
    refine ⟨?_, word 'n' _ (by decide) same⟩
    unfold magnitude?
    dsimp only
    rw [same]
    rfl
  | @whole digits tail exponent some digital powered =>
    have read := decimal?_whole some digital powered
    obtain ⟨c, more, rfl⟩ := List.exists_cons_of_ne_nil some
    exact number read (.inl (digital c List.mem_cons_self))
  | @point digits fraction tail exponent some digital powered =>
    have read := decimal?_point some digital powered
    cases digits with
    | nil => exact number read (.inr rfl)
    | cons c more =>
      exact number read (.inl (digital c (List.mem_append_left _ List.mem_cons_self)))

/-- **What is read without a sign is what is written without one.** -/
theorem magnitude?_eq_some_iff : magnitude? text = some magnitude ↔ magnitude.Written text := by
  refine ⟨fun read => ?_, fun written => (magnitude?_of_written written).1⟩
  unfold magnitude? at read
  dsimp only at read
  split at read
  · rename_i word
    obtain rfl := Option.some.inj read
    exact .infinite word
  · split at read
    · rename_i word
      obtain rfl := Option.some.inj read
      exact .notANumber word
    · exact written_of_decimal? read

/-- **A text is read as a literal if it is one of its texts.** -/
theorem parse?_eq_some_iff {literal : Literal} :
    parse? text = some literal ↔ literal.Written text := by
  constructor
  · intro read
    obtain ⟨magnitude, own, rfl⟩ := Option.map_eq_some_iff.1 read
    exact ⟨_, signed_splitSign text, magnitude?_eq_some_iff.1 own⟩
  · rintro ⟨body, signed, written⟩
    obtain ⟨read, plain⟩ := magnitude?_of_written written
    unfold parse?
    rw [signed.splitSign_eq plain]
    dsimp only
    rw [read]
    rfl

/-! ### What no literal has -/

/-- Blanks have no case. -/
theorem toLower_blank {c : Char} (blank : isBlank c = true) : c.toLower = c := by
  refine dif_neg fun upper => ?_
  have least : 65 ≤ c.toNat := upper.1
  have most : c.toNat ≤ 90 := upper.2
  simp [isBlank, Ranges.contains, blankRanges] at blank
  omega

/-- No character of a text in capitals or small letters is a blank if none of the small ones is. -/
theorem visible_of_word {word : List Char} (same : text.map Char.toLower = word)
    (visible : word.any isBlank = false) : ∀ c ∈ text, isBlank c = false := by
  intro c member
  by_contra blank
  have isBlank := eq_true_of_ne_false blank
  have inside : c ∈ word := by
    rw [← same, ← toLower_blank isBlank]
    exact List.mem_map_of_mem member
  exact List.any_eq_false.1 visible c inside isBlank

theorem visible_of_digital {digits : List Char} (digital : Digital digits) :
    ∀ c ∈ digits, isBlank c = false := fun c member => isBlank_digit (digital c member)

theorem Signed.visible {body : List Char} {negative : Bool} (signed : Signed body negative text)
    (visible : ∀ c ∈ body, isBlank c = false) : ∀ c ∈ text, isBlank c = false := by
  cases signed with
  | minus | plus => exact List.forall_mem_cons.2 ⟨by decide, visible⟩
  | bare => exact visible

theorem Powered.visible {exponent : ℤ} (powered : Powered exponent text) :
    ∀ c ∈ text, isBlank c = false := by
  cases powered with
  | none => exact fun _ absent => nomatch absent
  | written mark signed some digital =>
    refine List.forall_mem_cons.2 ⟨?_, signed.visible (visible_of_digital digital)⟩
    rcases mark with rfl | rfl <;> decide

/-- **There is no blank in a literal.** -/
theorem Written.visible {literal : Literal} (written : literal.Written text) :
    ∀ c ∈ text, isBlank c = false := by
  obtain ⟨negative, magnitude⟩ := literal
  obtain ⟨body, signed, written⟩ := written
  refine signed.visible ?_
  cases written with
  | infinite word => rcases word with same | same <;> exact visible_of_word same (by decide)
  | notANumber same => exact visible_of_word same (by decide)
  | whole some digital powered =>
    exact List.forall_mem_append.2 ⟨visible_of_digital digital, powered.visible⟩
  | point some digital powered =>
    obtain ⟨front, back⟩ := List.forall_mem_append.1 digital
    exact List.forall_mem_append.2 ⟨visible_of_digital front, List.forall_mem_cons.2
      ⟨by decide, List.forall_mem_append.2 ⟨visible_of_digital back, powered.visible⟩⟩⟩

/-- **Behind the digits that a literal begins with** there is a power of ten, or a point with digits
and such a power behind it. -/
theorem Written.behind {literal : Literal} {digits tail : List Char}
    (written : literal.Written (digits ++ tail)) (some : digits ≠ []) (digital : Digital digits)
    (stops : ∀ c ∈ tail.head?, c.isDigit = false) : ∃ exponent, Powered exponent tail ∨
      ∃ fraction rest, tail = '.' :: (fraction ++ rest) ∧ Digital fraction ∧
        Powered exponent rest := by
  obtain ⟨c, more, rfl⟩ := List.exists_cons_of_ne_nil some
  have isDigit := digital c List.mem_cons_self
  have read := parse?_eq_some_iff.2 written
  unfold parse? at read
  rw [List.cons_append, splitSign_digit isDigit] at read
  dsimp only at read
  obtain ⟨magnitude, own, -⟩ := Option.map_eq_some_iff.1 read
  rw [magnitude?_digit isDigit, ← List.cons_append] at own
  unfold decimal? at own
  rw [takeWhile_digits digital stops, dropWhile_digits digital stops] at own
  dsimp only at own
  split at own
  · rename_i more
    rw [List.isEmpty_cons, Bool.false_and, if_neg Bool.false_ne_true] at own
    obtain ⟨exponent, power, -⟩ := Option.map_eq_some_iff.1 own
    exact ⟨exponent, .inr ⟨_, _, congrArg _ (List.takeWhile_append_dropWhile ..).symm,
      digital_takeWhile more, exponent?_eq_some_iff.1 power⟩⟩
  · rw [List.isEmpty_cons, Bool.false_and, if_neg Bool.false_ne_true] at own
    obtain ⟨exponent, power, -⟩ := Option.map_eq_some_iff.1 own
    exact ⟨exponent, .inl (exponent?_eq_some_iff.1 power)⟩

/-- A text is read as the number of a literal. -/
theorem readFloat?_eq_some_iff {x : Float} :
    readFloat? text = some x ↔ ∃ literal : Literal, literal.Written text ∧ literal.value = x := by
  simp only [readFloat?, Option.map_eq_some_iff, parse?_eq_some_iff]

end Literal

end LoadTest.Decimal
