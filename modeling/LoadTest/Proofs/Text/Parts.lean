/-
**The parts of a text.**

A part that is cut or trimmed from a text has only characters of the text, and what a text is cut
at does not occur in its parts.

* `Text.splitFirst_eq_none_iff`, `Text.splitFirst_append`: cutting at the first mark;
* `Text.dropTail?_eq_some_iff`: dropping a given end;
* `Text.mem_of_mem_trim`: trimming;
* `Text.not_mem_of_mem_splitOn`: cutting at every mark.
-/

import LoadTest.Text.Blank
import LoadTest.Text.Cut

namespace LoadTest.Text

theorem splitFirst_eq_none_iff {mark : Char} {text : List Char} :
    splitFirst mark text = none ↔ mark ∉ text := by
  induction text with
  | nil => simp [splitFirst]
  | cons c rest ih =>
    unfold splitFirst
    rw [List.mem_cons, not_or]
    by_cases here : c = mark
    · rw [if_pos here]
      constructor
      · intro impossible
        contradiction
      · intro apart
        exact absurd here.symm apart.1
    · rw [if_neg here, Option.map_eq_none_iff, ih]
      constructor
      · intro apart
        exact ⟨Ne.symm here, apart⟩
      · intro apart
        exact apart.2

/-- Two parts around a mark are found again, when the first has no mark. -/
theorem splitFirst_append {mark : Char} {before : List Char} (after : List Char)
    (apart : mark ∉ before) : splitFirst mark (before ++ mark :: after) = some (before, after) :=
  splitFirst_eq_some_iff.mpr ⟨rfl, apart⟩

/-- A text that ends with `tail` is what stands before it, and the tail. -/
theorem dropTail?_eq_some_iff {tail text before : List Char} :
    dropTail? tail text = some before ↔ text = before ++ tail := by
  unfold dropTail?
  rw [Option.map_eq_some_iff]
  constructor
  · rintro ⟨rest, left, rfl⟩
    have whole := congrArg List.reverse (dropLead?_eq_some_iff.mp left)
    rwa [List.reverse_reverse, List.reverse_append, List.reverse_reverse] at whole
  · rintro rfl
    refine ⟨before.reverse, dropLead?_eq_some_iff.mpr ?_, List.reverse_reverse _⟩
    exact List.reverse_append

theorem mem_of_mem_trim {c : Char} {text : List Char} (member : c ∈ trim text) : c ∈ text := by
  unfold trim trimEnd trimStart at member
  rw [List.mem_reverse] at member
  have inner := (List.dropWhile_sublist _).mem member
  rw [List.mem_reverse] at inner
  exact (List.dropWhile_sublist _).mem inner

/-- What a text is cut at is in none of its parts. -/
theorem not_mem_of_mem_splitOn {mark : Char} {text part : List Char}
    (member : part ∈ text.splitOn mark) : mark ∉ part := by
  induction text generalizing part with
  | nil =>
    obtain rfl : part = [] := by simpa using member
    exact List.not_mem_nil
  | cons c rest ih =>
    rw [List.splitOn_cons_eq_if_modifyHead] at member
    by_cases here : c = mark
    · rw [if_pos (beq_iff_eq.mpr here)] at member
      rcases List.mem_cons.mp member with rfl | later
      · exact List.not_mem_nil
      · exact ih later
    · rw [if_neg (by simpa using here)] at member
      obtain ⟨first, others, parts⟩ := List.exists_cons_of_ne_nil (List.splitOn_ne_nil mark rest)
      rw [parts] at member ih
      rcases List.mem_cons.mp member with rfl | later
      · rw [List.mem_cons, not_or]
        exact ⟨Ne.symm here, ih List.mem_cons_self⟩
      · exact ih (List.mem_cons_of_mem _ later)

end LoadTest.Text
