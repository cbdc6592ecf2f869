/-
**Sums of numbers of units.**

A duration is written as a number of each unit that it has, the largest first. Such a text is one of
the texts in units, and no number in it is too large: each of them, and every sum on the way, is at
most the duration.

* `Units.Term`: a number of units with the name that it is written by;
* `Units.written_terms`: terms are a text of their sum;
* `Units.format_eq`, `Units.sum_terms`: a duration is written as its terms, and is their sum.
-/

import Mathlib.Algebra.BigOperators.Group.List.Basic
import Mathlib.Tactic.Linarith
import Mathlib.Tactic.Ring
import LoadTest.Proofs.Duration.UnitGrammar

namespace LoadTest

open Decimal Text

namespace Units

variable {total sum : Duration} {gap : List Char}

/-! ### Terms -/

/-- A number of units with the name that it is written by. -/
structure Term where
  count : ℕ
  name : String
  unit : TimeUnit

namespace Term

/-- The term as it is written. -/
def text (term : Term) : String := showNat term.count ++ term.name

/-- The length of the term in nanoseconds. -/
def nanos (term : Term) : ℕ := term.count * term.unit.nanos

/-- **A term that can be read**: its name is one of its unit, and where nanoseconds are counted
there are few of them. -/
structure Readable (term : Term) : Prop where
  named : term.name.toList ≠ []
  letters : ∀ c ∈ term.name.toList, IsLetter c
  known : TimeUnit.ofName? term.name = some term.unit
  few : term.unit.grain = 1 → term.count < 1000

/-- What a unit is counted in divides it; nanoseconds are counted up to the millisecond. -/
theorem grain_spec (unit : TimeUnit) : unit.nanos / unit.grain * unit.grain = unit.nanos ∧
    0 < unit.nanos / unit.grain ∧
      (unit.grain = 1 ∧ unit.nanos ≤ 1000000 ∨ unit.grain = nanosPerSecond) := by
  cases unit <;> decide

/-- The grains of a term. -/
def grains (term : Term) : ℕ := term.count * (term.unit.nanos / term.unit.grain)

theorem grains_mul (term : Term) : term.grains * term.unit.grain = term.nanos := by
  unfold grains nanos
  rw [Nat.mul_assoc, (grain_spec term.unit).1]

/-- As long as the sum is a duration, the grains of a term fit. -/
theorem Readable.fits {term : Term} (readable : term.Readable)
    (added : sum.nanos = total.nanos + term.nanos) :
    term.grains ≤ maxWord ∧ (term.unit.grain = 1 → total.subsecond + term.grains ≤ maxWord) := by
  have amount := term.grains_mul
  have bounded := sum.bounded
  have fraction : total.subsecond < nanosPerSecond := Nat.mod_lt _ (by decide)
  unfold nanosPerSecond at fraction bounded
  rcases (grain_spec term.unit).2.2 with ⟨one, short⟩ | seconds
  · have few := readable.few one
    have small : term.nanos ≤ 1000 * 1000000 := Nat.mul_le_mul few.le short
    rw [one, Nat.mul_one] at amount
    unfold maxWord
    exact ⟨by omega, fun _ => by omega⟩
  · refine ⟨?_, fun one => ?_⟩
    · rw [seconds] at amount
      unfold nanosPerSecond at amount
      omega
    · rw [seconds] at one
      contradiction

theorem Readable.count_le {term : Term} (readable : term.Readable)
    (added : sum.nanos = total.nanos + term.nanos) : term.count ≤ maxWord :=
  (Nat.le_mul_of_pos_right _ (grain_spec term.unit).2.1).trans (readable.fits added).1

/-- The term as an item with blanks before it. -/
def item (term : Term) (gap : List Char) : Item :=
  ⟨gap, Nat.toDigits 10 term.count, none, term.name.toList⟩

theorem toList_text (term : Term) :
    term.text.toList = Nat.toDigits 10 term.count ++ term.name.toList := by
  unfold text showNat
  rw [String.toList_append, String.toList_ofList]

theorem text_item (term : Term) (gap : List Char) : (term.item gap).text = gap ++ term.text.toList := by
  rw [toList_text, ← List.append_assoc]
  exact congrArg (· ++ term.name.toList) (List.append_nil _)

theorem count_item (term : Term) (gap : List Char) : (term.item gap).count = term.count := by
  show digitsValue (digitsOf (Nat.toDigits 10 term.count)) = term.count
  rw [digitsOf, List.filter_eq_self.2 isDigit_toDigits, digitsValue_toDigits]

/-- Its number is written as it should be. -/
theorem complete_item {term : Term} (blank : Blanks gap) (fits : term.count ≤ maxWord) :
    (term.item gap).Complete where
  gap := blank
  first := by
    obtain ⟨c, rest, digits⟩ := List.exists_cons_of_ne_nil (@Nat.toDigits_ne_nil term.count 10)
    exact ⟨c, rest, digits, isDigit_toDigits c (by rw [digits]; exact List.mem_cons_self)⟩
  loose := fun c member => .inl (isDigit_toDigits c member)
  fits := (count_item term gap).trans_le fits
  fraction := fun _ absent => nomatch absent
  fractional := fun _ absent => nomatch absent

/-- **Adding a term does not fail** while the sum is a duration. -/
theorem Readable.adds {term : Term} (readable : term.Readable)
    (added : sum.nanos = total.nanos + term.nanos) : (term.item gap).Adds total sum := by
  obtain ⟨fits, room⟩ := readable.fits added
  have named : String.ofList term.name.toList ∈ term.unit.names := by
    rw [String.ofList_toList]
    exact ofName?_eq_some_iff.1 readable.known
  refine .whole named rfl ⟨?_, fun one => ?_, ?_⟩ <;> rw [count_item]
  · exact fits
  · exact room one
  · rw [added, ← term.grains_mul]
    rfl

end Term

/-- One more term, as long as a duration is not exceeded. -/
theorem Sums.exists_term {items : List Item} {term : Term} (sums : Sums items total)
    (readable : term.Readable) (blank : Blanks gap) (below : total.nanos + term.nanos ≤ sum.nanos) :
    ∃ next : Duration, next.nanos = total.nanos + term.nanos ∧
      Sums (items ++ [term.item gap]) next := by
  have added : (⟨_, below.trans_lt sum.bounded⟩ : Duration).nanos = total.nanos + term.nanos := rfl
  exact ⟨_, added, sums.concat (Term.complete_item blank (readable.count_le added))
    (readable.adds added)⟩

/-- Items with terms behind them. -/
theorem Sums.append_terms {items : List Item} {terms : List Term} (sums : Sums items total)
    (readable : ∀ term ∈ terms, term.Readable)
    (whole : total.nanos + (terms.map Term.nanos).sum = sum.nanos) :
    Sums (items ++ terms.map fun term => term.item [' ']) sum := by
  induction terms generalizing items total with
  | nil =>
    obtain rfl : total = sum := Duration.ext whole
    rwa [List.map_nil, List.append_nil]
  | cons term more ih =>
    rw [List.map_cons, List.sum_cons, ← Nat.add_assoc] at whole
    have space : Blanks [' '] := List.forall_mem_singleton.2 (by decide)
    obtain ⟨next, nanos, first⟩ := sums.exists_term (readable term List.mem_cons_self) space
      (Nat.le.intro whole)
    rw [← nanos] at whole
    have all := ih first (fun other member => readable other (List.mem_cons_of_mem _ member)) whole
    rwa [List.append_assoc] at all

/-- Terms are written with a blank between each two. -/
theorem toList_intercalate (first : Term) (more : List Term) :
    (" ".intercalate ((first :: more).map Term.text)).toList =
      first.text.toList ++ textOf (more.map fun term => term.item [' ']) := by
  induction more generalizing first with
  | nil =>
    rw [List.map_cons, List.map_nil, String.intercalate_singleton]
    exact (List.append_nil _).symm
  | cons other others ih =>
    rw [List.map_cons, List.map_cons, String.intercalate_cons_cons, ← List.map_cons,
      String.toList_append, String.toList_append, ih, List.map_cons, textOf_cons, Term.text_item,
      List.append_assoc, List.append_assoc]
    rfl

/-- **Terms are a text of their sum.** -/
theorem written_terms {terms : List Term} (any : terms ≠ [])
    (readable : ∀ term ∈ terms, term.Readable) (whole : (terms.map Term.nanos).sum = sum.nanos) :
    Written sum (" ".intercalate (terms.map Term.text)).toList := by
  obtain ⟨first, more, rfl⟩ := List.exists_cons_of_ne_nil any
  rw [List.map_cons, List.sum_cons] at whole
  obtain ⟨next, nanos, begun⟩ := Sums.nil.exists_term (readable first List.mem_cons_self) Blanks.nil
    ((Nat.zero_add _).trans_le (Nat.le.intro whole))
  have rest : next.nanos + (more.map Term.nanos).sum = sum.nanos := by
    rw [nanos, ← whole]
    exact congrArg (· + _) (Nat.zero_add _)
  have all := begun.append_terms (fun other member => readable other (List.mem_cons_of_mem _ member))
    rest
  have written := Written.items (List.append_ne_nil_of_left_ne_nil (List.cons_ne_nil _ _) _) all
    Blanks.nil
  rw [List.append_nil, List.singleton_append, textOf_cons, Term.text_item, List.nil_append]
    at written
  rwa [toList_intercalate]

/-! ### The terms of a duration -/

/-- A term with the name of its unit, which may take a plural. -/
def Term.of (count : ℕ) (name : String) (plural : Bool) (unit : TimeUnit) : Term :=
  ⟨count, name ++ (if plural && 1 < count then "s" else ""), unit⟩

theorem Term.readable_of {count : ℕ} {name : String} {plural : Bool} {unit : TimeUnit}
    (names : ∀ several, Names (name ++ (if plural && several then "s" else "")) unit)
    (few : unit.grain = 1 → count < 1000) : (Term.of count name plural unit).Readable := by
  obtain ⟨named, letters, known⟩ := names (1 < count)
  exact ⟨named, letters, known, few⟩

/-- All numbers of units that a duration is made of, the largest unit first. -/
def allTerms (d : Duration) : List Term :=
  [.of (d.seconds / 31557600) "year" true .year,
    .of (d.seconds % 31557600 / 2630016) "month" true .month,
    .of (d.seconds % 31557600 % 2630016 / 86400) "day" true .day,
    .of (d.seconds % 31557600 % 2630016 % 86400 / 3600) "h" false .hour,
    .of (d.seconds % 31557600 % 2630016 % 86400 % 3600 / 60) "m" false .minute,
    .of (d.seconds % 31557600 % 2630016 % 86400 % 60) "s" false .second,
    .of (d.subsecond / 1000000) "ms" false .millisecond,
    .of (d.subsecond / 1000 % 1000) "us" false .microsecond,
    .of (d.subsecond % 1000) "ns" false .nanosecond]

/-- The terms that a duration is written as. -/
def terms (d : Duration) : List Term := (allTerms d).filter fun term => term.count ≠ 0

theorem readable_allTerms (d : Duration) : ∀ term ∈ allTerms d, term.Readable := by
  have fraction : d.subsecond < 1000000000 := Nat.mod_lt _ (by decide)
  unfold allTerms
  simp only [List.forall_mem_cons, List.not_mem_nil, false_implies, implies_true, and_true]
  refine ⟨?_, ?_, ?_, ?_, ?_, ?_, ?_, ?_, ?_⟩
  -- From the second on, nothing is counted in nanoseconds.
  iterate 6 exact Term.readable_of (by decide) fun one => absurd one (by decide)
  all_goals exact Term.readable_of (by decide) fun _ => by omega

theorem part_eq (count : ℕ) (name : String) (plural : Bool) (unit : TimeUnit) :
    part count name plural =
      ([Term.of count name plural unit].filter fun term => term.count ≠ 0).map Term.text := by
  unfold part
  by_cases none : count = 0
  · rw [if_pos none]
    simp [Term.of, none]
  · rw [if_neg none]
    simp [Term.of, Term.text, none, String.append_assoc]

/-- **A duration is written as its terms.** -/
theorem format_eq {d : Duration} (some : d.isZero = false) :
    format d = " ".intercalate ((terms d).map Term.text) := by
  unfold format
  rw [some, if_neg Bool.false_ne_true]
  dsimp only
  rw [part_eq _ "year" _ .year, part_eq _ "month" _ .month, part_eq _ "day" _ .day,
    part_eq _ "h" _ .hour, part_eq _ "m" _ .minute, part_eq _ "s" _ .second,
    part_eq _ "ms" _ .millisecond, part_eq _ "us" _ .microsecond, part_eq _ "ns" _ .nanosecond]
  simp only [← List.map_append, ← List.filter_append]
  rfl

/-- Whole seconds in years, months, days, hours, minutes and seconds. -/
theorem seconds_eq (s : ℕ) :
    s / 31557600 * 31557600 + s % 31557600 / 2630016 * 2630016 +
      s % 31557600 % 2630016 / 86400 * 86400 + s % 31557600 % 2630016 % 86400 / 3600 * 3600 +
        s % 31557600 % 2630016 % 86400 % 3600 / 60 * 60 +
          s % 31557600 % 2630016 % 86400 % 60 = s := by
  have years := Nat.div_add_mod' s 31557600
  have months := Nat.div_add_mod' (s % 31557600) 2630016
  have days := Nat.div_add_mod' (s % 31557600 % 2630016) 86400
  have hours := Nat.div_add_mod' (s % 31557600 % 2630016 % 86400) 3600
  have minutes := Nat.div_add_mod' (s % 31557600 % 2630016 % 86400 % 3600) 60
  rw [Nat.mod_mod_of_dvd _ (by decide : 60 ∣ 3600)] at minutes
  linarith

/-- Nanoseconds in milliseconds, microseconds and nanoseconds. -/
theorem subsecond_eq (n : ℕ) : n / 1000000 * 1000000 + n / 1000 % 1000 * 1000 + n % 1000 = n := by
  omega

/-- **A duration is the sum of its terms.** -/
theorem sum_terms (d : Duration) : ((terms d).map Term.nanos).sum = d.nanos := by
  have skipped : ∀ all : List Term, ((all.filter fun term => term.count ≠ 0).map Term.nanos).sum =
      (all.map Term.nanos).sum := by
    intro all
    induction all with
    | nil => rfl
    | cons term rest ih =>
      by_cases none : term.count = 0
      · have nothing : term.nanos = 0 := by
          unfold Term.nanos
          rw [none, Nat.zero_mul]
        rw [List.filter_cons_of_neg (by simp [none]), ih, List.map_cons, List.sum_cons, nothing,
          Nat.zero_add]
      · rw [List.filter_cons_of_pos (by simp [none]), List.map_cons, List.map_cons, List.sum_cons,
          List.sum_cons, ih]
  have whole : d.seconds * nanosPerSecond + d.subsecond = d.nanos := Nat.div_add_mod' d.nanos _
  have large := seconds_eq d.seconds
  have small := subsecond_eq d.subsecond
  unfold terms
  rw [skipped, ← whole]
  conv_rhs => rw [← large, ← small]
  unfold allTerms
  -- One step at a time: the sum must not be evaluated with its numbers in place.
  iterate 9 rw [List.map_cons, List.sum_cons]
  rw [List.map_nil, List.sum_nil]
  simp only [Term.nanos, Term.of, TimeUnit.nanos]
  generalize nanosPerSecond = second
  ring

end Units

end LoadTest
