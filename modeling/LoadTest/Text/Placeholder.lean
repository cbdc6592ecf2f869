/-
**Placeholders.**

A text with placeholders is a sequence of literal parts and names between two marks. Each opening
mark is the leftmost one of the text that is left, each name ends at the nearest closing mark, and
an opening mark that is never closed is literal text. What is put in the place of a name is not
looked at again.

* `Placeholder.split`: the parts of a text;
* `Placeholder.fill`: the text with every name replaced, or the first failure;
* `Placeholder.join_split`: the parts are the text.
-/

import LoadTest.Text.Cut

namespace LoadTest.Text

/-- The parts before and after the first occurrence of a word. -/
def splitWord (word : List Char) : List Char → Option (List Char × List Char)
  | [] => if word.isEmpty then some ([], []) else none
  | c :: rest =>
    match dropLead? word (c :: rest) with
    | some after => some ([], after)
    | none => (splitWord word rest).map fun (before, after) => (c :: before, after)

/-- A cut at a word loses nothing. -/
theorem eq_of_splitWord {word text before after : List Char}
    (cut : splitWord word text = some (before, after)) : text = before ++ word ++ after := by
  induction text generalizing before with
  | nil =>
    unfold splitWord at cut
    split at cut
    · simp_all
    · simp at cut
  | cons c rest ih =>
    unfold splitWord at cut
    split at cut
    · rename_i found
      simp only [Option.some.injEq, Prod.mk.injEq] at cut
      obtain ⟨rfl, rfl⟩ := cut
      simpa using dropLead?_eq_some_iff.mp found
    · obtain ⟨⟨first, last⟩, found, same⟩ := Option.map_eq_some_iff.mp cut
      simp only [Prod.mk.injEq] at same
      obtain ⟨rfl, rfl⟩ := same
      simpa using ih found

/-- The marks around a name; the opening one is not empty. -/
structure Marks where
  opening : List Char
  closing : List Char
  opening_ne : opening ≠ []

namespace Placeholder

/-- A part of a text: as it is, or a name between the marks. -/
inductive Part where
  | literal (text : List Char)
  | name (text : List Char)
deriving DecidableEq

/-- **The parts of a text.** -/
def split (marks : Marks) (text : List Char) : List Part :=
  match _opened : splitWord marks.opening text with
  | none => [.literal text]
  | some (before, rest) =>
    match _closed : splitWord marks.closing rest with
    | none => [.literal text]
    | some (name, after) => .literal before :: .name name :: split marks after
termination_by text.length
decreasing_by
  have whole := eq_of_splitWord _opened
  have inner := eq_of_splitWord _closed
  have some := List.length_pos_iff.mpr marks.opening_ne
  subst whole inner
  simp only [List.length_append]
  omega

/-- The text of a part, with its marks. -/
def Part.written (marks : Marks) : Part → List Char
  | .literal text => text
  | .name text => marks.opening ++ text ++ marks.closing

/-- The text that parts make. -/
def join (marks : Marks) (parts : List Part) : List Char := parts.flatMap (Part.written marks)

/-- What stands for a part: itself, or what is found under its name. -/
def Part.fill {ε : Type} (find : List Char → Except ε (List Char)) :
    Part → Except ε (List Char)
  | .literal text => .ok text
  | .name text => find text

/-- **The text with every name replaced**, or the failure of the first name without a value. -/
def fill {ε : Type} (marks : Marks) (find : List Char → Except ε (List Char)) (text : List Char) :
    Except ε (List Char) :=
  ((split marks text).mapM (Part.fill find)).map List.flatten

/-- **The parts are the text.** -/
theorem join_split (marks : Marks) (text : List Char) : join marks (split marks text) = text := by
  fun_induction split marks text with
  | case1 => simp [join, Part.written]
  | case2 => simp [join, Part.written]
  | case3 text before rest opened name after closed ih =>
    have whole := eq_of_splitWord opened
    have inner := eq_of_splitWord closed
    simp only [join, List.flatMap_cons, Part.written] at ih ⊢
    rw [ih, whole, inner]
    simp

end Placeholder

end LoadTest.Text
