/-
**The grammar of durations in units.**

A text in units is a zero, or a sequence of numbers with a unit each and blanks behind the last one.
Blanks may stand before a number and wherever digits may; the digits behind a point are a fraction,
and the name of a unit follows without anything between its letters. The text is read character by
character, and what has been read by then is a sequence of whole items and the beginning of one more.

* `Units.Item`, `Units.Item.Adds`: a number with its unit, as it is written, and what it adds to a sum;
* `Units.Written`: the texts of a duration in units;
* `Units.Reached`, `Units.reached_foldlM`: what has been read when the reading stands somewhere;
* `Units.Settled`, `Units.foldlM_items`: where the reading stands behind whole items;
* `Units.read_eq_ok_iff`: a text is read as a duration if it is one of its texts.
-/

import Mathlib.Data.List.Induction
import LoadTest.Duration.Units
import LoadTest.Proofs.Sequence
import LoadTest.Proofs.Text.Digits
import LoadTest.Proofs.Text.Trimmed

namespace LoadTest.Units

open Decimal Text

/-! ### The definitions -/

/-- Digits with blanks among them. -/
def Loose (text : List Char) : Prop := ∀ c ∈ text, c.isDigit = true ∨ isBlank c = true

/-- The digits of a text, without the blanks. -/
def digitsOf (text : List Char) : List Char := text.filter Char.isDigit

/-- The fraction that digits behind a point are. -/
def fractionOf (text : List Char) : Fraction :=
  ⟨digitsValue (digitsOf text), Nat.pow 10 (digitsOf text).length⟩

/-- **A sum that has grown by `count` grains.** The count fits 64 bits, and where nanoseconds are
counted, so do they with those that the sum had beside its seconds. -/
structure Grown (total : Duration) (count grain : ℕ) (sum : Duration) : Prop where
  fits : count ≤ maxWord
  room : grain = 1 → total.subsecond + count ≤ maxWord
  nanos : sum.nanos = total.nanos + count * grain

/-- **A number with its unit**, as it is written: the blanks before it, its digits, those behind a
point if there is one, and the name of the unit. -/
structure Item where
  gap : List Char
  whole : List Char
  fraction : Option (List Char)
  name : List Char

namespace Item

/-- The item as it is written. -/
def text (item : Item) : List Char :=
  item.gap ++ item.whole ++ (item.fraction.elim [] fun digits => '.' :: digits) ++ item.name

/-- How many whole units there are. -/
def count (item : Item) : ℕ := digitsValue (digitsOf item.whole)

/-- **A number that is written as it should be**: it begins with a digit, and its digits fit 64 bits,
and so does the power of ten that its fraction counts in. -/
structure Numbered (item : Item) : Prop where
  gap : Blanks item.gap
  first : ∃ c rest, item.whole = c :: rest ∧ c.isDigit = true
  loose : Loose item.whole
  fits : item.count ≤ maxWord
  fraction : ∀ digits ∈ item.fraction, Loose digits ∧ (fractionOf digits).whole ≤ maxWord

/-- **A number that is written to its end**: there is a digit behind its point. -/
structure Complete (item : Item) : Prop extends item.Numbered where
  fractional : ∀ digits ∈ item.fraction, digitsOf digits ≠ []

/-- **A sum to which an item is added**: the whole units first, and then the fraction, which has to
be a whole number of what fractions of the unit are counted in. -/
inductive Adds (item : Item) (total : Duration) : Duration → Prop
  | whole {unit : TimeUnit} {sum : Duration} (named : String.ofList item.name ∈ unit.names)
    (none : item.fraction = none)
    (grown : Grown total (item.count * (unit.nanos / unit.grain)) unit.grain sum) :
    Adds item total sum
  | fraction {unit : TimeUnit} {digits : List Char} {grain parts : ℕ} {middle sum : Duration}
    (named : String.ofList item.name ∈ unit.names) (some : item.fraction = some digits)
    (grown : Grown total (item.count * (unit.nanos / unit.grain)) unit.grain middle)
    (counted : unit.fractionGrain? = .some grain)
    (fits : (fractionOf digits).part * (unit.nanos / grain) ≤ maxWord)
    (divides : (fractionOf digits).part * (unit.nanos / grain) = parts * (fractionOf digits).whole)
    (more : Grown middle parts grain sum) : Adds item total sum

end Item

/-- Items as they are written, one after the other. -/
def textOf (items : List Item) : List Char := items.flatMap Item.text

/-- **Items that add up to a sum.** -/
inductive Sums : List Item → Duration → Prop
  | nil : Sums [] .zero
  | concat {items : List Item} {item : Item} {total sum : Duration} (sums : Sums items total)
    (complete : item.Complete) (adds : item.Adds total sum) : Sums (items ++ [item]) sum

/-- **The texts of a duration in units.** -/
inductive Written : Duration → List Char → Prop
  | zero : Written .zero ['0']
  | items {items : List Item} {tail : List Char} {d : Duration} (some : items ≠ [])
    (sums : Sums items d) (blank : Blanks tail) : Written d (textOf items ++ tail)

/-! ### Digits -/

section Digits

variable {text digits : List Char} {c : Char}

theorem digitsOf_digit (text : List Char) (isDigit : c.isDigit = true) :
    digitsOf (text ++ [c]) = digitsOf text ++ [c] := by
  rw [digitsOf, List.filter_append, List.filter_singleton, isDigit]
  rfl

theorem isDigit_blank (blank : isBlank c = true) : c.isDigit = false := by
  by_contra isDigit
  rw [isBlank_digit (eq_true_of_ne_false isDigit)] at blank
  contradiction

theorem digitsOf_blank (text : List Char) (blank : isBlank c = true) :
    digitsOf (text ++ [c]) = digitsOf text := by
  rw [digitsOf, List.filter_append, List.filter_singleton, isDigit_blank blank]
  exact List.append_nil _

theorem digitsValue_concat (digits : List Char) (c : Char) :
    digitsValue (digits ++ [c]) = 10 * digitsValue digits + digit c :=
  List.foldl_concat ..

theorem digitsValue_digit (isDigit : c.isDigit = true) : digitsValue (digitsOf [c]) = digit c := by
  have only : digitsOf [c] = [c] := digitsOf_digit [] isDigit
  rw [only]
  exact Nat.zero_add _

/-- One more digit behind a point. -/
theorem fractionOf_digit (text : List Char) (isDigit : c.isDigit = true) :
    fractionOf (text ++ [c]) =
      ⟨10 * (fractionOf text).part + digit c, 10 * (fractionOf text).whole⟩ := by
  unfold fractionOf
  rw [digitsOf_digit _ isDigit, digitsValue_concat, List.length_append, List.length_singleton]
  exact congrArg (Fraction.mk _) Nat.pow_succ'

theorem fractionOf_blank (text : List Char) (blank : isBlank c = true) :
    fractionOf (text ++ [c]) = fractionOf text := by
  unfold fractionOf
  rw [digitsOf_blank _ blank]

theorem Loose.concat (loose : Loose text) (more : c.isDigit = true ∨ isBlank c = true) :
    Loose (text ++ [c]) :=
  List.forall_mem_append.2 ⟨loose, List.forall_mem_singleton.2 more⟩

theorem blanks_concat (blanks : Blanks text) (blank : isBlank c = true) : Blanks (text ++ [c]) :=
  List.forall_mem_append.2 ⟨blanks, List.forall_mem_singleton.2 blank⟩

/-- A fraction has a digit if it counts in more than one. -/
theorem digitsOf_ne_nil : digitsOf text ≠ [] ↔ (fractionOf text).whole ≠ 1 := by
  show _ ↔ 10 ^ (digitsOf text).length ≠ 1
  rw [Ne, Ne, Nat.pow_eq_one]
  simp

end Digits

/-! ### Names -/

/-- A letter of a unit and nothing else. -/
def IsLetter (c : Char) : Prop := c.isDigit = false ∧ isBlank c = false ∧ isUnitLetter c = true

instance (c : Char) : Decidable (IsLetter c) := inferInstanceAs (Decidable (_ ∧ _))

/-- A name that its unit is read by, and that is made of letters. -/
def Names (name : String) (unit : TimeUnit) : Prop :=
  name.toList ≠ [] ∧ (∀ c ∈ name.toList, IsLetter c) ∧ TimeUnit.ofName? name = some unit

instance (name : String) (unit : TimeUnit) : Decidable (Names name unit) :=
  -- The letters are those of the name, so they are not searched among all characters.
  have : Decidable (∀ c ∈ name.toList, IsLetter c) := List.decidableBAll _ _
  inferInstanceAs (Decidable (_ ∧ _))

/-- No two units have a name in common, and all names are made of letters. -/
theorem names_of_mem (unit : TimeUnit) : ∀ name ∈ unit.names, Names name unit := by
  cases unit <;> decide

theorem ofName?_eq_some_iff {name : String} {unit : TimeUnit} :
    TimeUnit.ofName? name = some unit ↔ name ∈ unit.names := by
  refine ⟨fun known => ?_, fun named => (names_of_mem unit name named).2.2⟩
  exact List.contains_iff_mem.1
    (@List.find?_some _ (fun unit => TimeUnit.names unit |>.contains name) _ _ known)

/-! ### What an item adds -/

section Adding

variable {total sum : Duration} {count grain n m : ℕ}

theorem word_eq_ok_iff : word n = .ok m ↔ n ≤ maxWord ∧ n = m := by
  unfold word
  split_ifs with fits <;> simp [fits]

theorem addGrains_eq_ok_iff : addGrains total count grain = .ok sum ↔ Grown total count grain sum := by
  unfold addGrains
  constructor
  · intro added
    obtain ⟨_, first, added⟩ := ok_of_bind added
    obtain ⟨fits, rfl⟩ := word_eq_ok_iff.1 first
    obtain ⟨_, second, added⟩ := ok_of_bind added
    obtain ⟨room, -⟩ := word_eq_ok_iff.1 second
    split at added
    · rename_i own known
      obtain rfl := Except.ok.inj added
      refine ⟨fits, fun one => ?_, Duration.ofNanos?_eq_some_iff.1 known⟩
      rwa [if_pos one] at room
    · contradiction
  · intro grown
    have room : (if grain = 1 then total.subsecond + count else count) ≤ maxWord := by
      split_ifs with one
      · exact grown.room one
      · exact grown.fits
    refine bind_eq_ok_iff.2 ⟨count, word_eq_ok_iff.2 ⟨grown.fits, rfl⟩,
      bind_eq_ok_iff.2 ⟨_, word_eq_ok_iff.2 ⟨room, rfl⟩, ?_⟩⟩
    rw [Duration.ofNanos?_eq_some_iff.2 grown.nanos]

theorem fractionOf_whole_pos (digits : List Char) : 0 < (fractionOf digits).whole :=
  Nat.pow_pos (by decide)

/-- **What is added when an item ends** is the item. -/
theorem adds_iff {item : Item} :
    addUnits total item.count (item.fraction.map fractionOf) item.name.reverse = .ok sum ↔
      item.Adds total sum := by
  unfold addUnits
  rw [List.reverse_reverse]
  constructor
  · intro added
    split at added
    · split at added <;> contradiction
    · rename_i unit known
      have named := ofName?_eq_some_iff.1 known
      obtain ⟨middle, whole, added⟩ := ok_of_bind added
      have grown := addGrains_eq_ok_iff.1 whole
      cases written : item.fraction with
      | none =>
        rw [written] at added
        obtain rfl := Except.ok.inj added
        exact .whole named written grown
      | some digits =>
        rw [written] at added
        dsimp only [Option.map_some] at added
        split at added
        · contradiction
        · rename_i grain counted
          obtain ⟨_, scaled, added⟩ := ok_of_bind added
          obtain ⟨fits, rfl⟩ := word_eq_ok_iff.1 scaled
          split at added
          · rename_i divides
            exact .fraction named written grown counted fits
              (Nat.div_mul_cancel (Nat.dvd_of_mod_eq_zero divides)).symm
              (addGrains_eq_ok_iff.1 added)
          · contradiction
  · intro adds
    cases adds with
    | @whole unit _ named none grown =>
      rw [ofName?_eq_some_iff.2 named, none]
      exact bind_eq_ok_iff.2 ⟨sum, addGrains_eq_ok_iff.2 grown, rfl⟩
    | @fraction unit digits grain parts middle _ named some grown counted fits divides more =>
      rw [ofName?_eq_some_iff.2 named, some]
      refine bind_eq_ok_iff.2 ⟨middle, addGrains_eq_ok_iff.2 grown, ?_⟩
      dsimp only [Option.map_some]
      rw [counted]
      refine bind_eq_ok_iff.2 ⟨_, word_eq_ok_iff.2 ⟨fits, rfl⟩, ?_⟩
      rw [divides, if_pos (Nat.mul_mod_left ..), Nat.mul_div_cancel _ (fractionOf_whole_pos digits)]
      exact addGrains_eq_ok_iff.2 more

theorem addUnits_nil {fraction : Option Fraction} : addUnits total count fraction [] ≠ .ok sum := by
  unfold addUnits
  have unknown : TimeUnit.ofName? (String.ofList ([] : List Char).reverse) = none := by decide
  rw [unknown]
  exact fun added => nomatch added

end Adding

/-! ### What has been read -/

/-- **What has been read when the reading stands somewhere**: complete items that add up to the sum,
and behind them blanks or the beginning of one more item. -/
inductive Reached : List Char → State → Prop
  | opening {gap : List Char} {offset : ℕ} (blank : Blanks gap) :
    Reached gap ⟨offset, .zero, .opening⟩
  | between {items : List Item} {gap : List Char} {offset place : ℕ} {total : Duration}
    (some : items ≠ []) (sums : Sums items total) (blank : Blanks gap) :
    Reached (textOf items ++ gap) ⟨offset, total, .between place⟩
  | whole {items : List Item} {gap whole : List Char} {offset : ℕ} {total : Duration}
    (sums : Sums items total) (numbered : Item.Numbered ⟨gap, whole, none, []⟩) :
    Reached (textOf items ++ Item.text ⟨gap, whole, none, []⟩)
      ⟨offset, total, .whole (digitsValue (digitsOf whole))⟩
  | fraction {items : List Item} {gap whole digits : List Char} {offset : ℕ} {total : Duration}
    {point : Option ℕ} (sums : Sums items total)
    (numbered : Item.Numbered ⟨gap, whole, some digits, []⟩) :
    Reached (textOf items ++ Item.text ⟨gap, whole, some digits, []⟩)
      ⟨offset, total, .fraction (digitsValue (digitsOf whole)) (fractionOf digits) point⟩
  | unit {items : List Item} {item : Item} {offset : ℕ} {total : Duration} (sums : Sums items total)
    (complete : item.Complete) : Reached (textOf items ++ item.text)
      ⟨offset, total, .unit item.count (item.fraction.map fractionOf) item.name.reverse⟩

theorem textOf_cons (item : Item) (items : List Item) :
    textOf (item :: items) = item.text ++ textOf items :=
  List.flatMap_cons ..

theorem textOf_concat (items : List Item) (item : Item) :
    textOf (items ++ [item]) = textOf items ++ item.text := by
  rw [textOf, List.flatMap_append, List.flatMap_singleton]
  rfl

/-- A digit where a number may begin. -/
theorem Reached.begin {items : List Item} {gap : List Char} {total : Duration} {offset : ℕ} {c : Char}
    (sums : Sums items total) (blank : Blanks gap) (isDigit : c.isDigit = true) :
    Reached (textOf items ++ gap ++ [c]) ⟨offset, total, .whole (digit c)⟩ := by
  have value := digitsValue_digit isDigit
  have small : digit c ≤ maxWord := by
    obtain ⟨-, most⟩ := digit_bounds isDigit
    exact (Nat.sub_le _ _).trans (most.trans (by decide))
  have reached := @Reached.whole items gap [c] offset total sums
    ⟨blank, ⟨c, [], rfl, isDigit⟩, List.forall_mem_singleton.2 (.inl isDigit),
      by rw [Item.count, value]; exact small, fun _ absent => nomatch absent⟩
  rw [value] at reached
  simpa [Item.text] using reached

/-- More of a number that is written as it should be. -/
theorem Item.Numbered.extend {gap whole : List Char} {c : Char}
    (numbered : Numbered ⟨gap, whole, none, []⟩) (more : c.isDigit = true ∨ isBlank c = true)
    (fits : digitsValue (digitsOf (whole ++ [c])) ≤ maxWord) :
    Numbered ⟨gap, whole ++ [c], none, []⟩ where
  gap := numbered.gap
  first := by
    obtain ⟨d, rest, heads, isDigit⟩ := numbered.first
    exact ⟨d, rest ++ [c], congrArg (· ++ [c]) heads, isDigit⟩
  loose := numbered.loose.concat more
  fits := fits
  fraction := fun _ absent => nomatch absent

/-- A fraction of a number that is written as it should be. -/
theorem Item.Numbered.point {gap whole name : List Char} {fraction : Option (List Char)}
    (numbered : Numbered ⟨gap, whole, fraction, name⟩) {digits : List Char} (loose : Loose digits)
    (fits : (fractionOf digits).whole ≤ maxWord) : Numbered ⟨gap, whole, some digits, name⟩ :=
  { numbered with
    fraction := fun own same => by
      obtain rfl := Option.some.inj same
      exact ⟨loose, fits⟩ }

/-- A number with a name behind it. -/
theorem Item.Complete.rename {item : Item} (complete : item.Complete) (name : List Char) :
    Complete { item with name } := { complete with }

section Step

variable {items : List Item} {item : Item} {gap whole digits : List Char} {offset : ℕ}
  {total : Duration} {next : State} {c : Char}

/-- One more character behind the digits of a number. -/
theorem Reached.step_whole (sums : Sums items total) (numbered : Item.Numbered ⟨gap, whole, none, []⟩)
    (stepped : step ⟨offset, total, .whole (digitsValue (digitsOf whole))⟩ c = .ok next) :
    Reached (textOf items ++ Item.text ⟨gap, whole, none, []⟩ ++ [c]) next := by
  have text : textOf items ++ Item.text ⟨gap, whole ++ [c], none, []⟩ =
      textOf items ++ Item.text ⟨gap, whole, none, []⟩ ++ [c] := by simp [Item.text]
  unfold step at stepped
  dsimp only at stepped
  split at stepped
  · rename_i isDigit
    obtain ⟨_, taken, same⟩ := ok_of_bind stepped
    obtain ⟨fits, rfl⟩ := word_eq_ok_iff.1 taken
    obtain rfl := Except.ok.inj same
    rw [← digitsValue_concat, ← digitsOf_digit _ isDigit] at fits ⊢
    rw [← text]
    exact .whole sums (numbered.extend (.inl isDigit) fits)
  split at stepped
  · rename_i isBlank
    obtain rfl := Except.ok.inj stepped
    have value := congrArg digitsValue (digitsOf_blank whole isBlank)
    rw [← value, ← text]
    exact .whole sums (numbered.extend (.inr isBlank) (value.trans_le numbered.fits))
  split at stepped
  · obtain rfl := Except.ok.inj stepped
    have named : textOf items ++ Item.text ⟨gap, whole, none, [c]⟩ =
        textOf items ++ Item.text ⟨gap, whole, none, []⟩ ++ [c] := by simp [Item.text]
    rw [← named]
    exact .unit sums ⟨{ numbered with }, fun _ absent => nomatch absent⟩
  split at stepped
  · rename_i isPoint
    obtain rfl := Except.ok.inj stepped
    have pointed : textOf items ++ Item.text ⟨gap, whole, some [], []⟩ =
        textOf items ++ Item.text ⟨gap, whole, none, []⟩ ++ [c] := by simp [Item.text, isPoint]
    rw [← pointed]
    exact .fraction sums (numbered.point (fun _ absent => nomatch absent) (by decide))
  · contradiction

/-- One more character behind the point of a number. -/
theorem Reached.step_fraction {point : Option ℕ} (sums : Sums items total)
    (numbered : Item.Numbered ⟨gap, whole, some digits, []⟩) (stepped : step ⟨offset, total,
      .fraction (digitsValue (digitsOf whole)) (fractionOf digits) point⟩ c = .ok next) :
    Reached (textOf items ++ Item.text ⟨gap, whole, some digits, []⟩ ++ [c]) next := by
  obtain ⟨loose, fits⟩ := numbered.fraction digits rfl
  have text : textOf items ++ Item.text ⟨gap, whole, some (digits ++ [c]), []⟩ =
      textOf items ++ Item.text ⟨gap, whole, some digits, []⟩ ++ [c] := by simp [Item.text]
  unfold step at stepped
  dsimp only at stepped
  split at stepped
  · rename_i isDigit
    obtain ⟨_, taken, same⟩ := ok_of_bind stepped
    obtain ⟨small, rfl⟩ := word_eq_ok_iff.1 taken
    obtain rfl := Except.ok.inj same
    have grown := fractionOf_digit digits isDigit
    rw [← grown, ← text]
    exact .fraction sums (numbered.point (loose.concat (.inl isDigit)) (by rw [grown]; exact small))
  split at stepped
  · rename_i isBlank
    obtain rfl := Except.ok.inj stepped
    have kept := fractionOf_blank digits isBlank
    rw [← kept, ← text]
    exact .fraction sums (numbered.point (loose.concat (.inr isBlank)) (by rw [kept]; exact fits))
  split at stepped
  · rename_i letter
    obtain rfl := Except.ok.inj stepped
    have named : textOf items ++ Item.text ⟨gap, whole, some digits, [c]⟩ =
        textOf items ++ Item.text ⟨gap, whole, some digits, []⟩ ++ [c] := by simp [Item.text]
    rw [← named]
    refine .unit sums ⟨{ numbered with }, fun own same => ?_⟩
    obtain rfl := Option.some.inj same
    exact digitsOf_ne_nil.2 letter.2
  · contradiction

/-- One more character behind the letters of a unit. -/
theorem Reached.step_unit (sums : Sums items total) (complete : item.Complete)
    (stepped : step ⟨offset, total,
      .unit item.count (item.fraction.map fractionOf) item.name.reverse⟩ c = .ok next) :
    Reached (textOf items ++ item.text ++ [c]) next := by
  unfold step at stepped
  dsimp only at stepped
  split at stepped
  · rename_i isDigit
    obtain ⟨sum, added, same⟩ := ok_of_bind stepped
    obtain rfl := Except.ok.inj same
    have reached : Reached (textOf (items ++ [item]) ++ [] ++ [c])
        ⟨offset + c.utf8Size, sum, .whole (digit c)⟩ :=
      .begin (sums.concat complete (adds_iff.1 added)) Blanks.nil isDigit
    rwa [textOf_concat, List.append_nil] at reached
  split at stepped
  · rename_i isBlank
    obtain ⟨sum, added, same⟩ := ok_of_bind stepped
    obtain rfl := Except.ok.inj same
    rw [← textOf_concat]
    exact .between (by simp) (sums.concat complete (adds_iff.1 added))
      (blanks_concat Blanks.nil isBlank)
  split at stepped
  · obtain rfl := Except.ok.inj stepped
    have named : textOf items ++ Item.text { item with name := item.name ++ [c] } =
        textOf items ++ item.text ++ [c] := by simp [Item.text]
    have letters : (item.name ++ [c]).reverse = c :: item.name.reverse := by simp
    rw [← named, ← letters]
    exact .unit sums (complete.rename _)
  · contradiction

/-- **One more character is read.** -/
theorem reached_step {before : List Char} {state : State} (reached : Reached before state)
    (stepped : step state c = .ok next) : Reached (before ++ [c]) next := by
  cases reached with
  | opening blank =>
    unfold step at stepped
    dsimp only at stepped
    split at stepped
    · rename_i isDigit
      obtain rfl := Except.ok.inj stepped
      exact .begin .nil blank isDigit
    · split at stepped
      · rename_i isBlank
        obtain rfl := Except.ok.inj stepped
        exact .opening (blanks_concat blank isBlank)
      · contradiction
  | between some sums blank =>
    unfold step at stepped
    dsimp only at stepped
    split at stepped
    · rename_i isDigit
      obtain rfl := Except.ok.inj stepped
      exact .begin sums blank isDigit
    · split at stepped
      · rename_i isBlank
        obtain rfl := Except.ok.inj stepped
        rw [List.append_assoc]
        exact .between some sums (blanks_concat blank isBlank)
      · contradiction
  | whole sums numbered => exact .step_whole sums numbered stepped
  | fraction sums numbered => exact .step_fraction sums numbered stepped
  | unit sums complete => exact .step_unit sums complete stepped

end Step

/-- **Whatever is read, what has been read is known.** -/
theorem reached_foldlM {before text : List Char} {state next : State} (reached : Reached before state)
    (read : text.foldlM step state = .ok next) : Reached (before ++ text) next := by
  induction text generalizing before state with
  | nil =>
    obtain rfl := Except.ok.inj read
    rwa [List.append_nil]
  | cons c rest ih =>
    rw [List.foldlM_cons] at read
    obtain ⟨middle, stepped, later⟩ := ok_of_bind read
    have further := ih (reached_step reached stepped) later
    rwa [List.append_assoc] at further

/-- **What ends well has a text of units behind it.** -/
theorem Reached.written {text : List Char} {state : State} {d : Duration} (reached : Reached text state)
    (finished : finish state = .ok d) : Written d text := by
  unfold finish at finished
  cases reached with
  | opening => contradiction
  | between some sums blank =>
    obtain rfl := Except.ok.inj finished
    exact .items some sums blank
  | whole => exact absurd finished addUnits_nil
  | fraction =>
    dsimp only at finished
    split at finished
    · contradiction
    · exact absurd finished addUnits_nil
  | @unit items item offset total sums complete =>
    have written := Written.items (List.append_ne_nil_of_right_ne_nil items (List.cons_ne_nil item []))
      (sums.concat complete (adds_iff.1 finished)) Blanks.nil
    rwa [textOf_concat, List.append_nil] at written

/-! ### What is written is read -/

/-- **A place where a number may begin**: what has been read by then adds up to a sum, to which the
last number is added as soon as its unit ends. -/
inductive Settled : State → Duration → Prop
  | opening {offset : ℕ} {total : Duration} : Settled ⟨offset, total, .opening⟩ total
  | between {offset place : ℕ} {total : Duration} : Settled ⟨offset, total, .between place⟩ total
  | unit {offset count : ℕ} {total sum : Duration} {fraction : Option Fraction} {name : List Char}
    (added : addUnits total count fraction name = .ok sum) :
    Settled ⟨offset, total, .unit count fraction name⟩ sum

section Reading

variable {state : State} {total sum : Duration} {offset count : ℕ} {c : Char}

/-- What is read in two parts is read. -/
theorem foldlM_append_ok {first second : List Char} {middle last : State}
    (front : first.foldlM step state = .ok middle) (back : second.foldlM step middle = .ok last) :
    (first ++ second).foldlM step state = .ok last := by
  rw [List.foldlM_append, front]
  exact back

theorem Settled.digit (settled : Settled state total) (isDigit : c.isDigit = true) :
    ∃ next, step state c = .ok ⟨next, total, .whole (digit c)⟩ := by
  cases settled with
  | opening | between =>
    unfold step
    dsimp only
    rw [if_pos isDigit]
    exact ⟨_, rfl⟩
  | unit added =>
    unfold step
    dsimp only
    rw [if_pos isDigit, added]
    exact ⟨_, rfl⟩

theorem Settled.blank (settled : Settled state total) (blank : isBlank c = true) : ∃ next,
    step state c = .ok next ∧ Settled next total ∧
      (finish state = .ok total → finish next = .ok total) := by
  have noDigit : c.isDigit = false := isDigit_blank blank
  cases settled with
  | opening =>
    unfold step
    dsimp only
    rw [noDigit, blank]
    exact ⟨_, rfl, .opening, id⟩
  | between =>
    unfold step
    dsimp only
    rw [noDigit, blank]
    exact ⟨_, rfl, .between, id⟩
  | unit added =>
    unfold step
    dsimp only
    rw [noDigit, blank, added]
    exact ⟨_, rfl, .between, fun _ => rfl⟩

/-- Blanks leave the sum as it is, and an end that was possible before them. -/
theorem Settled.foldlM_blanks {gap : List Char} (settled : Settled state total) (blank : Blanks gap) :
    ∃ next, gap.foldlM step state = .ok next ∧ Settled next total ∧
      (finish state = .ok total → finish next = .ok total) := by
  induction gap generalizing state with
  | nil => exact ⟨state, rfl, settled, id⟩
  | cons c rest ih =>
    obtain ⟨first, stepped, kept, ends⟩ := settled.blank (blank c List.mem_cons_self)
    obtain ⟨next, read, last, whole⟩ := ih kept fun d member => blank d (List.mem_cons_of_mem _ member)
    refine ⟨next, ?_, last, whole ∘ ends⟩
    rw [List.foldlM_cons, stepped]
    exact read

/-- The digits of a number are read where it begins. -/
theorem Settled.foldlM_whole {more : List Char} (settled : Settled state total)
    (isDigit : c.isDigit = true) (loose : Loose (c :: more))
    (fits : digitsValue (digitsOf (c :: more)) ≤ maxWord) : ∃ next,
      (c :: more).foldlM step state =
        .ok ⟨next, total, .whole (digitsValue (digitsOf (c :: more)))⟩ := by
  induction more using List.reverseRecOn with
  | nil =>
    obtain ⟨next, stepped⟩ := settled.digit isDigit
    refine ⟨next, ?_⟩
    rw [digitsValue_digit isDigit, List.foldlM_cons, stepped]
    rfl
  | append_singleton more d ih =>
    rw [← List.cons_append] at loose fits ⊢
    obtain ⟨front, last⟩ := List.forall_mem_append.1 loose
    rcases last d List.mem_cons_self with another | blank
    · rw [digitsOf_digit _ another, digitsValue_concat] at fits ⊢
      obtain ⟨next, read⟩ := ih front (by omega)
      refine ⟨next + d.utf8Size, foldlM_append_ok read ?_⟩
      rw [List.foldlM_cons]
      unfold step
      dsimp only
      rw [if_pos another, word_eq_ok_iff.2 ⟨fits, rfl⟩]
      rfl
    · rw [digitsOf_blank _ blank] at fits ⊢
      obtain ⟨next, read⟩ := ih front fits
      refine ⟨next + d.utf8Size, foldlM_append_ok read ?_⟩
      rw [List.foldlM_cons]
      unfold step
      dsimp only
      rw [isDigit_blank blank, blank]
      rfl

/-- The digits behind its point are read. -/
theorem foldlM_fraction {digits : List Char} (loose : Loose digits)
    (fits : (fractionOf digits).whole ≤ maxWord) : ∃ next point,
      ('.' :: digits).foldlM step ⟨offset, total, .whole count⟩ =
        .ok ⟨next, total, .fraction count (fractionOf digits) point⟩ := by
  induction digits using List.reverseRecOn with
  | nil => exact ⟨_, _, rfl⟩
  | append_singleton digits d ih =>
    rw [← List.cons_append]
    obtain ⟨front, last⟩ := List.forall_mem_append.1 loose
    rcases last d List.mem_cons_self with another | blank
    · rw [fractionOf_digit _ another] at fits ⊢
      dsimp only at fits
      obtain ⟨next, point, read⟩ := ih front (by omega)
      refine ⟨next + d.utf8Size, none, foldlM_append_ok read ?_⟩
      rw [List.foldlM_cons]
      unfold step
      dsimp only
      rw [if_pos another, word_eq_ok_iff.2 ⟨fits, rfl⟩]
      rfl
    · rw [fractionOf_blank _ blank] at fits ⊢
      obtain ⟨next, point, read⟩ := ih front fits
      refine ⟨next + d.utf8Size, none, foldlM_append_ok read ?_⟩
      rw [List.foldlM_cons]
      unfold step
      dsimp only
      rw [isDigit_blank blank, blank]
      rfl

/-! The first letter ends a number, and the others follow it. -/

theorem step_whole_letter (letter : IsLetter c) : step ⟨offset, total, .whole count⟩ c =
    .ok ⟨offset + c.utf8Size, total, .unit count none [c]⟩ := by
  obtain ⟨noDigit, noBlank, isLetter⟩ := letter
  unfold step
  dsimp only
  rw [noDigit, noBlank, isLetter]
  rfl

theorem step_fraction_letter (letter : IsLetter c) {fraction : Fraction} {point : Option ℕ}
    (counts : fraction.whole ≠ 1) : step ⟨offset, total, .fraction count fraction point⟩ c =
      .ok ⟨offset + c.utf8Size, total, .unit count (some fraction) [c]⟩ := by
  obtain ⟨noDigit, noBlank, isLetter⟩ := letter
  unfold step
  dsimp only
  rw [noDigit, noBlank, isLetter, if_neg Bool.false_ne_true, if_neg Bool.false_ne_true,
    if_pos ⟨rfl, counts⟩]

theorem step_unit_letter (letter : IsLetter c) {fraction : Option Fraction} {name : List Char} :
    step ⟨offset, total, .unit count fraction name⟩ c =
      .ok ⟨offset + c.utf8Size, total, .unit count fraction (c :: name)⟩ := by
  obtain ⟨noDigit, noBlank, isLetter⟩ := letter
  unfold step
  dsimp only
  rw [noDigit, noBlank, isLetter]
  rfl

theorem foldlM_letters {letters : List Char} (each : ∀ c ∈ letters, IsLetter c)
    (fraction : Option Fraction) (name : List Char) : ∃ next,
      letters.foldlM step ⟨offset, total, .unit count fraction name⟩ =
        .ok ⟨next, total, .unit count fraction (letters.reverse ++ name)⟩ := by
  induction letters generalizing offset name with
  | nil => exact ⟨offset, rfl⟩
  | cons c more ih =>
    obtain ⟨next, read⟩ := @ih (offset + c.utf8Size)
      (fun other member => each other (List.mem_cons_of_mem _ member)) (c :: name)
    refine ⟨next, ?_⟩
    rw [List.foldlM_cons, step_unit_letter (each c List.mem_cons_self), List.reverse_cons,
      List.append_assoc]
    exact read

/-- **An item is read where a number may begin**, up to the end of its name. -/
theorem Settled.foldlM_item {item : Item} (settled : Settled state total) (complete : item.Complete)
    (named : item.name ≠ []) (letters : ∀ c ∈ item.name, IsLetter c) : ∃ next,
      item.text.foldlM step state =
        .ok ⟨next, total, .unit item.count (item.fraction.map fractionOf) item.name.reverse⟩ := by
  obtain ⟨gap, whole, fraction, name⟩ := item
  obtain ⟨d, more, rfl, isDigit⟩ := complete.first
  obtain ⟨first, other, rfl⟩ := List.exists_cons_of_ne_nil named
  obtain ⟨before, skipped, begins, -⟩ := settled.foldlM_blanks complete.gap
  obtain ⟨behind, counted⟩ := begins.foldlM_whole isDigit complete.loose complete.fits
  have number := foldlM_append_ok skipped counted
  have letter := letters first List.mem_cons_self
  have rest : ∀ c ∈ other, IsLetter c := fun c member => letters c (List.mem_cons_of_mem _ member)
  cases fraction with
  | none =>
    obtain ⟨last, name⟩ := @foldlM_letters total (behind + first.utf8Size) _ other rest none [first]
    refine ⟨last, ?_⟩
    rw [Item.text, Option.elim_none, List.append_nil]
    refine foldlM_append_ok number ?_
    rw [List.foldlM_cons, step_whole_letter letter, List.reverse_cons]
    exact name
  | some digits =>
    obtain ⟨loose, fits⟩ := complete.fraction digits rfl
    have counts := digitsOf_ne_nil.1 (complete.fractional digits rfl)
    obtain ⟨after, point, fraction⟩ := @foldlM_fraction total behind
      (digitsValue (digitsOf (d :: more))) digits loose fits
    obtain ⟨last, name⟩ := @foldlM_letters total (after + first.utf8Size) _ other rest
      (some (fractionOf digits)) [first]
    refine ⟨last, foldlM_append_ok (foldlM_append_ok number fraction) ?_⟩
    rw [List.foldlM_cons, step_fraction_letter letter counts, List.reverse_cons]
    exact name

theorem Item.Adds.named {item : Item} (adds : item.Adds total sum) :
    ∃ unit : TimeUnit, String.ofList item.name ∈ unit.names := by
  cases adds with
  | whole named | fraction named => exact ⟨_, named⟩

/-- **Items are read as their sum.** -/
theorem foldlM_items {items : List Item} (sums : Sums items total) : ∃ state,
    (textOf items).foldlM step ⟨0, .zero, .opening⟩ = .ok state ∧ Settled state total ∧
      (items ≠ [] → finish state = .ok total) := by
  induction sums with
  | nil => exact ⟨_, rfl, .opening, fun some => absurd rfl some⟩
  | @concat items item total sum sums complete adds ih =>
    obtain ⟨state, read, settled, -⟩ := ih
    obtain ⟨unit, name⟩ := adds.named
    obtain ⟨some, letters, -⟩ := names_of_mem unit _ name
    rw [String.toList_ofList] at some letters
    obtain ⟨next, last⟩ := settled.foldlM_item complete some letters
    rw [textOf_concat]
    exact ⟨_, foldlM_append_ok read last, .unit (adds_iff.2 adds), fun _ => adds_iff.2 adds⟩

end Reading

/-- An item is no single digit. -/
theorem Sums.ne_zero {items : List Item} {total : Duration} (sums : Sums items total)
    (some : items ≠ []) (tail : List Char) : textOf items ++ tail ≠ ['0'] := by
  intro zero
  cases sums with
  | nil => contradiction
  | @concat items item total sum sums complete adds =>
    obtain ⟨unit, name⟩ := adds.named
    obtain ⟨named, -⟩ := names_of_mem unit _ name
    rw [String.toList_ofList] at named
    obtain ⟨d, more, digits, -⟩ := complete.first
    have short := congrArg List.length zero
    have last := List.length_pos_of_ne_nil named
    rw [textOf_concat, Item.text, digits] at short
    simp at short
    omega

/-- **A text is read as a duration if it is one of its texts.** -/
theorem read_eq_ok_iff {text : List Char} {d : Duration} : read text = .ok d ↔ Written d text := by
  constructor
  · intro done
    unfold read at done
    split at done
    · rename_i zero
      obtain rfl := Except.ok.inj done
      rw [zero]
      exact .zero
    · obtain ⟨state, read, finished⟩ := ok_of_bind done
      exact (reached_foldlM (.opening Blanks.nil) read).written finished
  · intro written
    cases written with
    | zero => rfl
    | @items items tail d some sums blank =>
      obtain ⟨state, front, settled, ends⟩ := foldlM_items sums
      obtain ⟨last, back, -, whole⟩ := settled.foldlM_blanks blank
      unfold read
      rw [if_neg (sums.ne_zero some tail)]
      exact bind_eq_ok_iff.2 ⟨last, foldlM_append_ok front back, whole (ends some)⟩

end LoadTest.Units
