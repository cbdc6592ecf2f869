/-
**Texts between blanks.**

A text that neither begins nor ends with a blank is what is left when the blanks around it are
dropped, and what is left of any text is found between blanks.

* `Text.Blanks`, `Text.Solid`: nothing but blanks, and no blank at either end;
* `Text.trim_between`: a solid text between blanks;
* `Text.exists_between`: what is left of a text stands between blanks;
* `Text.solid_trim`, `Text.trim_trim`: it is solid, so there is nothing more to drop.
-/

import Mathlib.Data.List.Basic
import Mathlib.Data.List.TakeWhile
import LoadTest.Text.Blank

namespace LoadTest.Text

/-- Nothing but blanks. -/
def Blanks (text : List Char) : Prop := ∀ c ∈ text, isBlank c = true

theorem Blanks.nil : Blanks [] := fun _ absent => absurd absent List.not_mem_nil

theorem Blanks.append {front back : List Char} (first : Blanks front) (second : Blanks back) :
    Blanks (front ++ back) :=
  fun c member => (List.mem_append.1 member).elim (first c) (second c)

theorem blanks_takeWhile (text : List Char) : Blanks (text.takeWhile isBlank) :=
  fun _ => List.mem_takeWhile_imp

/-- **A text that neither begins nor ends with a blank.** -/
structure Solid (text : List Char) : Prop where
  first : ∃ c rest, text = c :: rest ∧ isBlank c = false
  last : ∃ front c, text = front ++ [c] ∧ isBlank c = false

/-- A text without blanks is solid, if there is something in it. -/
theorem solid_of_each {text : List Char} (some : text ≠ []) (each : ∀ c ∈ text, isBlank c = false) :
    Solid text where
  first := by
    obtain ⟨c, rest, rfl⟩ := List.exists_cons_of_ne_nil some
    exact ⟨c, rest, rfl, each c List.mem_cons_self⟩
  last := ⟨_, _, (List.dropLast_append_getLast some).symm, each _ (List.getLast_mem some)⟩

/-- Solid texts with anything between them are solid. -/
theorem Solid.append {front back : List Char} (first : Solid front) (middle : List Char)
    (second : Solid back) : Solid (front ++ middle ++ back) where
  first := by
    obtain ⟨c, rest, rfl, visible⟩ := first.first
    exact ⟨c, rest ++ middle ++ back, rfl, visible⟩
  last := by
    obtain ⟨before, c, rfl, visible⟩ := second.last
    exact ⟨front ++ middle ++ before, c, (List.append_assoc _ _ _).symm, visible⟩

theorem trimStart_append {front text : List Char} (blanks : Blanks front) {c : Char}
    {rest : List Char} (heads : text = c :: rest) (visible : isBlank c = false) :
    trimStart (front ++ text) = text := by
  unfold trimStart
  rw [List.dropWhile_append_of_pos blanks, heads, List.dropWhile_cons_of_neg (by simp [visible])]

theorem trimEnd_append {text back : List Char} (blanks : Blanks back) {front : List Char} {c : Char}
    (tails : text = front ++ [c]) (visible : isBlank c = false) : trimEnd (text ++ back) = text := by
  unfold trimEnd
  rw [List.reverse_append, List.dropWhile_append_of_pos fun d member =>
      blanks d (List.mem_reverse.1 member), tails, List.reverse_append, List.reverse_singleton,
    List.singleton_append, List.dropWhile_cons_of_neg (by simp [visible])]
  simp

/-- **A solid text between blanks is what is left when they are dropped.** -/
theorem trim_between {front core back : List Char} (before : Blanks front) (solid : Solid core)
    (behind : Blanks back) : trim (front ++ core ++ back) = core := by
  obtain ⟨c, rest, heads, visible⟩ := solid.first
  obtain ⟨more, d, tails, seen⟩ := solid.last
  have whole : core ++ back = c :: (rest ++ back) := by rw [heads, List.cons_append]
  unfold trim
  rw [List.append_assoc, trimStart_append before whole visible, trimEnd_append behind tails seen]

theorem trim_of_solid {text : List Char} (solid : Solid text) : trim text = text := by
  have kept := trim_between Blanks.nil solid Blanks.nil
  rwa [List.nil_append, List.append_nil] at kept

/-- **What is left of a text stands between blanks.** -/
theorem exists_between (text : List Char) : ∃ front back, Blanks front ∧ Blanks back ∧
    text = front ++ trim text ++ back := by
  refine ⟨text.takeWhile isBlank, ((trimStart text).reverse.takeWhile isBlank).reverse,
    blanks_takeWhile text, fun c member => blanks_takeWhile _ c (List.mem_reverse.1 member), ?_⟩
  unfold trim trimEnd
  rw [List.append_assoc, ← List.reverse_append, List.takeWhile_append_dropWhile, List.reverse_reverse]
  exact (List.takeWhile_append_dropWhile ..).symm

/-- The text that is left begins with what is left of its beginning. -/
theorem exists_trimEnd_append (text : List Char) : ∃ back, text = trimEnd text ++ back := by
  refine ⟨(text.reverse.takeWhile isBlank).reverse, ?_⟩
  unfold trimEnd
  rw [← List.reverse_append, List.takeWhile_append_dropWhile, List.reverse_reverse]

theorem visible_of_dropWhile {text rest : List Char} {c : Char}
    (split : text.dropWhile isBlank = c :: rest) : isBlank c = false := by
  have start := List.head?_dropWhile_not isBlank text
  rw [split] at start
  exact start

/-- **What is left of a text is solid**, if something is left. -/
theorem solid_trim {text : List Char} (some : trim text ≠ []) : Solid (trim text) where
  first := by
    obtain ⟨c, rest, heads⟩ := List.exists_cons_of_ne_nil some
    obtain ⟨back, whole⟩ := exists_trimEnd_append (trimStart text)
    have start : trimStart text = c :: (rest ++ back) := by
      rw [whole, show trimEnd (trimStart text) = c :: rest from heads, List.cons_append]
    exact ⟨c, rest, heads, visible_of_dropWhile start⟩
  last := by
    obtain ⟨c, rest, heads⟩ := List.exists_cons_of_ne_nil
      (show (trimStart text).reverse.dropWhile isBlank ≠ [] from
        fun none => some (congrArg List.reverse none))
    refine ⟨rest.reverse, c, ?_, visible_of_dropWhile heads⟩
    unfold trim trimEnd
    rw [heads, List.reverse_cons]

/-- A text in which something can be seen is more than blanks. -/
theorem trim_ne_nil {text : List Char} {c : Char} (member : c ∈ text)
    (visible : isBlank c = false) : trim text ≠ [] := by
  intro none
  obtain ⟨front, back, before, behind, whole⟩ := exists_between text
  rw [none, List.append_nil] at whole
  rw [whole] at member
  rw [before.append behind c member] at visible
  contradiction

theorem trim_trim (text : List Char) : trim (trim text) = trim text := by
  by_cases none : trim text = []
  · rw [none]
    rfl
  · exact trim_of_solid (solid_trim none)

end LoadTest.Text
