/-
**The two notations of a duration.**

A text is a number of seconds or a sequence of numbers with units. The number is tried first, and
this never changes what a text in units means: no text but a zero is both, and the zero is the same
in both notations. Blanks keep the two apart first, since a literal has none; without blanks, what
stands behind the first number is the name of a unit, and none begins like a power of ten.

* `Duration.OfLiteral`, `Duration.ofSeconds_value_iff`: the duration of a literal;
* `Units.zero_of_literal`: a literal is no text in units, unless it is the zero;
* `Duration.parse_of_literal`, `Duration.parse_of_units`: what a text of either notation stands for;
* `Duration.parse_notations`: what every text stands for.
-/

import LoadTest.Duration.Text
import LoadTest.Proofs.Decimal.LiteralGrammar
import LoadTest.Proofs.Decimal.LiteralValue
import LoadTest.Proofs.Duration.UnitGrammar

namespace LoadTest

open Decimal Text

/-! ### Numbers of seconds -/

namespace Duration

open Rounding

/-- A finite number of seconds is the duration nearest to it, unless it is negative or too large. -/
theorem ofSeconds_of_denotes {x : Float} {p : ℚ} {d : Duration} (denotes : Denotes x p) :
    ofSeconds x = .ok d ↔ 0 ≤ p ∧ NearestEven (p * nanosPerSecond) d.nanos := by
  obtain ⟨notNaN, notInf⟩ := isNaN_of_canonical denotes.canonical
  have sign : x < 0 ↔ p < 0 := denotes.lt_iff denotes_zero
  unfold ofSeconds
  rw [notNaN, notInf, Bool.false_or, if_neg Bool.false_ne_true]
  rcases lt_or_ge p 0 with negative | nonneg
  · rw [if_pos (sign.2 negative)]
    exact iff_of_false (fun done => nomatch done) fun near => negative.not_ge near.1
  · rw [if_neg fun below => nonneg.not_gt (sign.1 below), and_iff_right nonneg]
    obtain ⟨positive, value⟩ := denotes.ratio_of_nonneg nonneg
    generalize (Binary.ofBits x.toBits).ratio = ratio at positive value ⊢
    obtain ⟨num, den⟩ := ratio
    -- The product must not be evaluated with its factor in place.
    obtain ⟨second, unit⟩ : ∃ second, nanosPerSecond = second := ⟨_, rfl⟩
    have nanos : p * second = (num * second : ℕ) / den := by
      rw [value, Nat.cast_mul, div_mul_eq_mul_div]
    rw [unit, nanos, ← roundDiv_toEven_iff positive, eq_comm (b := d.nanos),
      ← ofNanos?_eq_some_iff]
    dsimp only
    cases ofNanos? (roundDiv (num * second) den .toEven) with
    | none => exact iff_of_false (fun done => nomatch done) (fun done => nomatch done)
    | some own => rw [Except.ok.injEq, Option.some.injEq]

/-- **A number of seconds is a duration** if it is finite, not negative and not too large. -/
theorem ofSeconds_eq_ok_iff {x : Float} {d : Duration} : ofSeconds x = .ok d ↔
    ∃ p, Denotes x p ∧ 0 ≤ p ∧ NearestEven (p * nanosPerSecond) d.nanos := by
  constructor
  · intro done
    rcases denotes_or x with ⟨p, denotes⟩ | none
    · exact ⟨p, denotes, (ofSeconds_of_denotes denotes).1 done⟩
    · unfold ofSeconds at done
      rw [none, if_pos rfl] at done
      split at done <;> contradiction
  · rintro ⟨p, denotes, near⟩
    exact (ofSeconds_of_denotes denotes).2 near

/-- **The duration of a literal.** The number of the literal is rounded to that of a float; this is
not negative, and the duration is the nearest whole number of nanoseconds, the even one of two that
are equally near. -/
def OfLiteral (literal : Literal) (d : Duration) : Prop :=
  ∃ q ∈ literal.number?, 0 ≤ near q ∧ NearestEven (near q * nanosPerSecond) d.nanos

/-- The seconds of a duration are far from the largest float. -/
theorem abs_lt_of_nearestEven {p : ℚ} {d : Duration} (nonneg : 0 ≤ p)
    (nearest : NearestEven (p * nanosPerSecond) d.nanos) : |p| < 2 ^ (1024 : ℤ) := by
  obtain ⟨-, high⟩ := abs_le.1 nearest.1
  have bounded : (d.nanos : ℚ) < 2 ^ 64 * 1000000000 := by exact_mod_cast d.bounded
  have unit : ((nanosPerSecond : ℕ) : ℚ) = 1000000000 := by norm_num [nanosPerSecond]
  rw [unit] at high
  rw [abs_of_nonneg nonneg]
  calc p < 2 * 2 ^ 64 := by linarith
    _ = 2 ^ (65 : ℤ) := by norm_num
    _ < 2 ^ (1024 : ℤ) := zpow_lt_zpow_right₀ one_lt_two (by norm_num)

/-- **A literal is a number of seconds.** -/
theorem ofSeconds_value_iff {literal : Literal} {d : Duration} :
    ofSeconds literal.value = .ok d ↔ OfLiteral literal d := by
  rw [ofSeconds_eq_ok_iff]
  constructor
  · rintro ⟨p, denotes, nearest⟩
    obtain ⟨q, number, rfl, -⟩ := Literal.denotes_value_iff.1 denotes
    exact ⟨q, number, nearest⟩
  · rintro ⟨q, number, nonneg, nearest⟩
    have small := abs_lt_of_nearestEven nonneg nearest
    exact ⟨_, Literal.denotes_value_iff.2 ⟨q, number, rfl, small⟩, nonneg, nearest⟩

end Duration

/-! ### A text of both notations -/

namespace Units

open Literal

/-- What ends where its digits end is cut there only. -/
theorem digits_unique {digits others tail rest : List Char} (first : Digital digits)
    (second : Digital others) (stops : ∀ c ∈ tail.head?, c.isDigit = false)
    (ends : ∀ c ∈ rest.head?, c.isDigit = false) (same : digits ++ tail = others ++ rest) :
    digits = others ∧ tail = rest := by
  constructor
  · rw [← takeWhile_digits first stops, same, takeWhile_digits second ends]
  · rw [← dropWhile_digits first stops, same, dropWhile_digits second ends]

theorem digital_of_loose {text : List Char} (loose : Loose text)
    (visible : ∀ c ∈ text, isBlank c = false) : Digital text := by
  intro c member
  refine (loose c member).resolve_right fun blank => ?_
  rw [visible c member] at blank
  contradiction

/-- **The name of a unit begins with a letter**, which begins no power of ten. -/
theorem exists_letter {name : List Char} {unit : TimeUnit} (named : String.ofList name ∈ unit.names) :
    ∃ letter rest, name = letter :: rest ∧ IsLetter letter ∧ letter ≠ 'e' ∧ letter ≠ 'E' := by
  have heads : ∀ unit : TimeUnit, ∀ name ∈ unit.names, name.toList.head? ≠ some 'e' ∧
      name.toList.head? ≠ some 'E' := by
    intro unit
    cases unit <;> decide
  obtain ⟨some, letters, -⟩ := names_of_mem unit _ named
  obtain ⟨small, large⟩ := heads unit _ named
  rw [String.toList_ofList] at some letters small large
  obtain ⟨letter, rest, rfl⟩ := List.exists_cons_of_ne_nil some
  exact ⟨letter, rest, rfl, letters letter List.mem_cons_self,
    fun same => small (congrArg Option.some same), fun same => large (congrArg Option.some same)⟩

/-- It is no power of ten. -/
theorem not_powered {name tail : List Char} {unit : TimeUnit} {exponent : ℤ}
    (named : String.ofList name ∈ unit.names) : ¬ Powered exponent (name ++ tail) := by
  obtain ⟨letter, rest, rfl, -, small, large⟩ := exists_letter named
  intro powered
  cases powered with
  | written mark => exact mark.elim small large

theorem Sums.forall_mem {items : List Item} {total : Duration} (sums : Sums items total) :
    ∀ item ∈ items, item.Complete ∧ ∃ unit : TimeUnit, String.ofList item.name ∈ unit.names := by
  induction sums with
  | nil => exact fun _ absent => absurd absent List.not_mem_nil
  | concat sums complete adds ih =>
    exact List.forall_mem_append.2 ⟨ih, List.forall_mem_singleton.2 ⟨complete, adds.named⟩⟩

/-- Without blanks, the numbers of an item are nothing but digits. -/
theorem Item.Complete.digital {item : Item} (complete : item.Complete)
    (visible : ∀ c ∈ item.text, isBlank c = false) : item.gap = [] ∧ item.whole ≠ [] ∧
      Digital item.whole ∧ ∀ digits ∈ item.fraction, Digital digits := by
  refine ⟨List.eq_nil_iff_forall_not_mem.2 fun c member => ?_, ?_, ?_, fun digits behind => ?_⟩
  · have seen := visible c (by simp [text, member])
    rw [complete.gap c member] at seen
    contradiction
  · obtain ⟨c, rest, whole, -⟩ := complete.first
    rw [whole]
    exact List.cons_ne_nil c rest
  · exact digital_of_loose complete.loose fun c member => visible c (by simp [text, member])
  · rw [Option.mem_def] at behind
    exact digital_of_loose (complete.fraction digits behind).1
      fun c member => visible c (by simp [text, behind, member])

/-- **A text that begins with an item is no literal**: behind its digits, and perhaps a point with
more of them, stands a name, which is no power of ten. -/
theorem not_literal {item : Item} {tail : List Char} {literal : Literal} (complete : item.Complete)
    {unit : TimeUnit} (named : String.ofList item.name ∈ unit.names) :
    ¬ literal.Written (item.text ++ tail) := by
  intro written
  obtain ⟨noGap, any, digital, fractional⟩ := complete.digital fun c member =>
    written.visible c (List.mem_append_left tail member)
  obtain ⟨letter, letters, heads, isLetter, -⟩ := exists_letter named
  have stops : ∀ c ∈ (item.name ++ tail).head?, c.isDigit = false := by
    intro c first
    rw [heads] at first
    obtain rfl := Option.some.inj first
    exact isLetter.1
  have text : item.text ++ tail =
      item.whole ++ ((item.fraction.elim [] fun digits => '.' :: digits) ++ (item.name ++ tail)) := by
    simp [Item.text, noGap]
  rw [text] at written
  cases behind : item.fraction with
  | none =>
    rw [behind, Option.elim_none, List.nil_append] at written
    obtain ⟨exponent, powered | ⟨digits, rest, pointed, -⟩⟩ := written.behind any digital stops
    · exact not_powered named powered
    · rw [heads] at pointed
      obtain rfl : letter = '.' := (List.cons.inj pointed).1
      exact absurd isLetter (by decide)
  | some digits =>
    rw [behind] at written
    have point : ∀ c ∈ ('.' :: (digits ++ (item.name ++ tail))).head?, c.isDigit = false := by
      intro c first
      obtain rfl := Option.some.inj first
      decide
    obtain ⟨exponent, powered | ⟨others, rest, pointed, otherDigits, powered⟩⟩ :=
      written.behind any digital point
    · exact (powered.head? '.' rfl).2 rfl
    · obtain ⟨-, same⟩ := digits_unique (fractional digits behind) otherDigits stops
        (fun c first => (powered.head? c first).1) (List.cons.inj pointed).2
      exact not_powered named (same ▸ powered)

/-- **A literal is no text in units**, unless it is the zero. -/
theorem zero_of_literal {text : List Char} {literal : Literal} {d : Duration}
    (number : literal.Written text) (units : Written d text) : text = ['0'] := by
  cases units with
  | zero => rfl
  | @items items tail _ some sums blank =>
    obtain ⟨item, more, rfl⟩ := List.exists_cons_of_ne_nil some
    obtain ⟨complete, unit, named⟩ := sums.forall_mem item List.mem_cons_self
    rw [textOf_cons, List.append_assoc] at number
    exact absurd number (not_literal complete named)

/-- A zero is the one duration that is written without a unit. -/
theorem written_zero_iff {d : Duration} : Written d ['0'] ↔ d = .zero := by
  constructor
  · intro written
    generalize text : ['0'] = zero at written
    cases written with
    | zero => rfl
    | items some sums => exact absurd text.symm (sums.ne_zero some _)
  · rintro rfl
    exact .zero

end Units

/-! ### What a text stands for -/

/-- The literal `0`. -/
def Decimal.Literal.zero : Literal := ⟨false, .finite 0 0⟩

theorem Decimal.Literal.written_zero_iff {literal : Literal} :
    literal.Written ['0'] ↔ literal = .zero := by
  rw [← parse?_eq_some_iff]
  have read : parse? ['0'] = some .zero := by decide
  rw [read, Option.some.injEq, eq_comm]

namespace Duration

open Rounding

theorem ofLiteral_zero : OfLiteral .zero .zero := by
  have number : (0 : ℚ) ∈ Literal.zero.number? := by simp [Literal.zero, Literal.number?]
  refine ⟨0, number, near_nonneg le_rfl, ?_⟩
  show NearestEven _ 0
  simp [NearestEven]

variable {input : String} {literal : Literal} {d : Duration}

theorem parse_of_literal (written : literal.Written (trim input.toList)) :
    parse input = match ofSeconds literal.value with
      | .ok d => .ok d
      | .error _ => .error ⟨input, .literal⟩ := by
  have read := Literal.readFloat?_eq_some_iff.2 ⟨literal, written, rfl⟩
  unfold parse
  dsimp only
  split
  · rename_i seconds known
    obtain rfl := Option.some.inj (known.symm.trans read)
    rfl
  · rename_i unknown
    rw [read] at unknown
    contradiction

/-- **A text in units stands for its duration**, although it is tried as a number first. -/
theorem parse_of_units (written : Units.Written d (trim input.toList)) : parse input = .ok d := by
  cases number : readFloat? (trim input.toList) with
  | none =>
    unfold parse
    dsimp only
    rw [number, Units.read_eq_ok_iff.2 written]
  | some x =>
    obtain ⟨literal, own, -⟩ := Literal.readFloat?_eq_some_iff.1 number
    have zero := Units.zero_of_literal own written
    rw [parse_of_literal own]
    rw [zero] at own written
    obtain rfl := Literal.written_zero_iff.1 own
    obtain rfl := Units.written_zero_iff.1 written
    rw [ofSeconds_value_iff.2 ofLiteral_zero]

/-- **The two notations of a duration never compete.** A literal stands for its number of seconds, if
there is a duration of so many, a text in units for its sum, and any other text for nothing; what is
at fault is named as it was given. Only a zero is both, and it is the same in both. -/
theorem parse_notations (input : String) :
    (∀ literal : Literal, literal.Written (trim input.toList) →
      (∃ d, OfLiteral literal d ∧ parse input = .ok d) ∨
        (∀ d, ¬ OfLiteral literal d) ∧ parse input = .error ⟨input, .literal⟩) ∧
    (∀ d, Units.Written d (trim input.toList) → parse input = .ok d) ∧
    ((∀ literal : Literal, ¬ literal.Written (trim input.toList)) →
      (∀ d, ¬ Units.Written d (trim input.toList)) →
        ∃ fault, parse input = .error ⟨input, .units fault⟩) ∧
    (∀ (text : List Char) (literal : Literal) (d : Duration),
      literal.Written text ∧ Units.Written d text ↔
        text = ['0'] ∧ literal = .zero ∧ d = .zero) ∧
    OfLiteral .zero .zero := by
  refine ⟨fun literal written => ?_, fun d => parse_of_units, fun number units => ?_,
    fun text literal d => ⟨?_, ?_⟩, ofLiteral_zero⟩
  · rw [parse_of_literal written]
    cases seconds : ofSeconds literal.value with
    | ok d => exact .inl ⟨d, ofSeconds_value_iff.1 seconds, rfl⟩
    | error fault =>
      refine .inr ⟨fun d represents => ?_, rfl⟩
      rw [ofSeconds_value_iff.2 represents] at seconds
      contradiction
  · have noNumber : readFloat? (trim input.toList) = none :=
      Option.eq_none_iff_forall_ne_some.2 fun x read => by
        obtain ⟨literal, written, -⟩ := Literal.readFloat?_eq_some_iff.1 read
        exact number literal written
    unfold parse
    dsimp only
    rw [noNumber]
    cases read : Units.read (trim input.toList) with
    | ok d => exact absurd (Units.read_eq_ok_iff.1 read) (units d)
    | error fault => exact ⟨fault, rfl⟩
  · rintro ⟨number, units⟩
    obtain rfl := Units.zero_of_literal number units
    exact ⟨rfl, Literal.written_zero_iff.1 number, Units.written_zero_iff.1 units⟩
  · rintro ⟨rfl, rfl, rfl⟩
    exact ⟨Literal.written_zero_iff.2 rfl, .zero⟩

/-- A number of seconds, a text in units and a text of neither notation. -/
theorem parse_notations_each :
    (∃ d, OfLiteral ⟨false, .finite 15 (-1)⟩ d ∧ parse " 1.5" = .ok d) ∧
    parse "1m 30s" = .ok (.ofWholeSeconds 90) ∧
    ∃ fault, parse "soon" = .error ⟨"soon", .units fault⟩ := by
  have number : Literal.Written ⟨false, .finite 15 (-1)⟩ (trim " 1.5".toList) :=
    Literal.parse?_eq_some_iff.1 (by decide)
  have units : Units.Written (.ofWholeSeconds 90) (trim "1m 30s".toList) :=
    Units.read_eq_ok_iff.1 (by decide +kernel)
  have noNumber : Literal.parse? (trim "soon".toList) = none := by decide
  have noUnits : Units.read (trim "soon".toList) = .error (.numberExpected 0) := by decide
  refine ⟨((parse_notations " 1.5").1 _ number).resolve_right fun invalid => ?_,
    (parse_notations "1m 30s").2.1 _ units,
    (parse_notations "soon").2.2.1 (fun literal written => ?_) fun d written => ?_⟩
  · have read : (parse " 1.5").isOk = true := by decide +kernel
    rw [invalid.2] at read
    contradiction
  · rw [Literal.parse?_eq_some_iff.2 written] at noNumber
    contradiction
  · rw [Units.read_eq_ok_iff.2 written] at noUnits
    contradiction

end Duration

end LoadTest
