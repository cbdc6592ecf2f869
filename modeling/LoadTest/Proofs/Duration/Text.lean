/-
**What is written in units is read back.**

The text of a duration begins with a digit and ends with a letter, so that it is not trimmed, and it
is one of the texts of the duration in units. So it stands for the duration, although it is tried as
a number first.

* `Units.solid_format`: there are no blanks around such a text;
* `Units.written_format`: it is a text of the duration;
* `Duration.parse_format`: it stands for the duration.
-/

import LoadTest.Proofs.Duration.Notations
import LoadTest.Proofs.Duration.Units

namespace LoadTest

open Decimal Text

namespace Units

/-- A term begins with a digit and ends with a letter. -/
theorem Term.Readable.solid {term : Term} (readable : term.Readable) : Solid term.text.toList where
  first := by
    obtain ⟨c, rest, digits⟩ := List.exists_cons_of_ne_nil (@Nat.toDigits_ne_nil term.count 10)
    refine ⟨c, rest ++ term.name.toList, by rw [toList_text, digits, List.cons_append], ?_⟩
    exact isBlank_digit (isDigit_toDigits c (by rw [digits]; exact List.mem_cons_self))
  last := by
    rw [toList_text, ← List.dropLast_append_getLast readable.named, ← List.append_assoc]
    exact ⟨_, _, rfl, (readable.letters _ (List.getLast_mem readable.named)).2.1⟩

theorem solid_terms {terms : List Term} (any : terms ≠ [])
    (readable : ∀ term ∈ terms, term.Readable) :
    Solid (" ".intercalate (terms.map Term.text)).toList := by
  induction terms with
  | nil => contradiction
  | cons term more ih =>
    have first := (readable term List.mem_cons_self).solid
    cases more with
    | nil => simpa using first
    | cons other others =>
      have rest := ih (List.cons_ne_nil _ _)
        fun item member => readable item (List.mem_cons_of_mem _ member)
      rw [List.map_cons, List.map_cons, String.intercalate_cons_cons, String.toList_append,
        String.toList_append, ← List.map_cons]
      exact first.append _ rest

/-- A duration that is not empty has terms. -/
theorem terms_ne_nil {d : Duration} (some : d.isZero = false) : terms d ≠ [] := by
  intro nothing
  have sum := sum_terms d
  rw [nothing] at sum
  exact of_decide_eq_false some sum.symm

theorem readable_terms (d : Duration) : ∀ term ∈ terms d, term.Readable :=
  fun term member => readable_allTerms d term (List.mem_filter.1 member).1

/-- **There are no blanks around the text of a duration.** -/
theorem solid_format (d : Duration) : Solid (format d).toList := by
  cases zero : d.isZero with
  | true =>
    rw [format, zero, if_pos rfl]
    exact ⟨⟨'0', ['s'], rfl, by decide⟩, ⟨['0'], 's', rfl, by decide⟩⟩
  | false =>
    rw [format_eq zero]
    exact solid_terms (terms_ne_nil zero) (readable_terms d)

/-- **The text of a duration is one of its texts in units.** -/
theorem written_format (d : Duration) : Written d (format d).toList := by
  cases zero : d.isZero with
  | true =>
    obtain rfl : d = Duration.zero := Duration.ext (of_decide_eq_true zero)
    exact read_eq_ok_iff.1 (by decide)
  | false =>
    rw [format_eq zero]
    exact written_terms (terms_ne_nil zero) (readable_terms d) (sum_terms d)

end Units

/-- **A duration survives its text form.** -/
theorem Duration.parse_format (d : Duration) : Duration.parse (Units.format d) = .ok d := by
  apply parse_of_units
  rw [trim_of_solid (Units.solid_format d)]
  exact Units.written_format d

end LoadTest
