/-
**The one way to take a text with placeholders apart.**

A text is taken apart at the leftmost opening mark that is left, and at the closing mark next to it,
until no opening mark is left with a closing one behind it. Each step of this has one outcome, so
there is one way to do it, however the marks overlap and whatever the names are.

* `First`: the first place where a word stands in a text;
* `first_of_splitWord`, `splitWord_eq_none_iff`: a cut at a word is made at its first place;
* `Placeholder.Decomposes`: the parts of a text, by what each of them has to be;
* `Placeholder.decomposes_iff`: these are the parts that the text is split into, and no others.
-/

import LoadTest.Text.Placeholder

namespace LoadTest.Text

/-! ### The first place of a word -/

/-- **The first place where a word stands in a text**: no other place has less before it. -/
structure First (word text before after : List Char) : Prop where
  whole : text = before ++ word ++ after
  least : ∀ front back, text = front ++ word ++ back → before.length ≤ front.length

/-- A word has one first place in a text. -/
theorem First.unique {word text before after front back : List Char}
    (first : First word text before after) (other : First word text front back) :
    before = front ∧ after = back := by
  have same : before.length = front.length :=
    Nat.le_antisymm (first.least _ _ other.whole) (other.least _ _ first.whole)
  have wholes := first.whole.symm.trans other.whole
  rw [List.append_assoc, List.append_assoc] at wholes
  obtain ⟨rfl, rest⟩ := List.append_inj wholes same
  exact ⟨rfl, List.append_cancel_left rest⟩

/-- A cut that is not made is one at a word that stands nowhere. -/
theorem splitWord_eq_none_iff {word text : List Char} :
    splitWord word text = none ↔ ∀ front back, text ≠ front ++ word ++ back := by
  induction text with
  | nil =>
    unfold splitWord
    cases word with
    | nil => exact ⟨fun impossible => by contradiction, fun nowhere => absurd rfl (nowhere [] [])⟩
    | cons c word =>
      refine ⟨fun _ front back whole => ?_, fun _ => rfl⟩
      rw [List.append_assoc, List.cons_append] at whole
      exact List.append_ne_nil_of_right_ne_nil _ (List.cons_ne_nil _ _) whole.symm
  | cons c rest ih =>
    unfold splitWord
    cases lead : dropLead? word (c :: rest) with
    | some after =>
      refine ⟨fun impossible => by contradiction, fun nowhere => ?_⟩
      exact absurd (dropLead?_eq_some_iff.mp lead) (nowhere [] after)
    | none =>
      rw [Option.map_eq_none_iff, ih]
      constructor
      · intro nowhere front back whole
        cases front with
        | nil =>
          rw [List.nil_append] at whole
          rw [dropLead?_eq_some_iff.mpr whole] at lead
          contradiction
        | cons d front => exact nowhere front back (List.cons.inj whole).2
      · intro nowhere front back whole
        exact nowhere (c :: front) back (congrArg (List.cons c) whole)

/-- A cut at a word is made at its first place. -/
theorem first_of_splitWord {word text before after : List Char}
    (cut : splitWord word text = some (before, after)) : First word text before after := by
  refine ⟨eq_of_splitWord cut, ?_⟩
  induction text generalizing before with
  | nil =>
    unfold splitWord at cut
    split at cut
    · obtain ⟨rfl, -⟩ := Prod.mk.inj (Option.some.inj cut)
      exact fun _ _ _ => Nat.zero_le _
    · contradiction
  | cons c rest ih =>
    unfold splitWord at cut
    cases lead : dropLead? word (c :: rest) with
    | some tail =>
      rw [lead] at cut
      obtain ⟨rfl, -⟩ := Prod.mk.inj (Option.some.inj cut)
      exact fun _ _ _ => Nat.zero_le _
    | none =>
      rw [lead] at cut
      obtain ⟨⟨first, last⟩, found, same⟩ := Option.map_eq_some_iff.mp cut
      obtain ⟨rfl, rfl⟩ := Prod.mk.inj same
      intro front back whole
      cases front with
      | nil =>
        rw [List.nil_append] at whole
        rw [dropLead?_eq_some_iff.mpr whole] at lead
        contradiction
      | cons d front =>
        exact Nat.succ_le_succ (ih found front back (List.cons.inj whole).2)

/-! ### The parts of a text -/

namespace Placeholder

variable {marks : Marks} {text : List Char} {parts others : List Part}

/-- **The parts of a text**, by what each of them has to be: literal text up to the leftmost opening
mark, a name up to the nearest closing mark behind it, and at the end a text in which no opening
mark has a closing one behind it. -/
inductive Decomposes (marks : Marks) : List Char → List Part → Prop where
  | last {text : List Char}
    (never : ∀ before name after,
      text ≠ before ++ marks.opening ++ name ++ marks.closing ++ after) :
    Decomposes marks text [.literal text]
  | name {text before rest name after : List Char} {parts : List Part}
    (opened : First marks.opening text before rest) (closed : First marks.closing rest name after)
    (more : Decomposes marks after parts) :
    Decomposes marks text (.literal before :: .name name :: parts)

/-- The parts that a text is split into are parts of it. -/
theorem decomposes_split (marks : Marks) (text : List Char) :
    Decomposes marks text (split marks text) := by
  fun_induction split marks text with
  | case1 text opened =>
    refine .last fun before name after whole => ?_
    rw [List.append_assoc, List.append_assoc] at whole
    exact splitWord_eq_none_iff.mp opened before _ whole
  | case2 text before rest opened closed =>
    refine .last fun front name after whole => ?_
    obtain ⟨own, least⟩ := first_of_splitWord opened
    -- What follows a later opening mark is part of what follows the leftmost one.
    have again : text = front ++ marks.opening ++ (name ++ marks.closing ++ after) := by
      rw [whole]
      simp only [List.append_assoc]
    have later := least front _ again
    have shorter : (name ++ marks.closing ++ after).length ≤ rest.length := by
      have total := congrArg List.length (own.symm.trans again)
      simp only [List.length_append] at total ⊢
      omega
    obtain ⟨middle, same⟩ : name ++ marks.closing ++ after <:+ rest :=
      List.suffix_of_suffix_length_le ⟨_, again.symm⟩ ⟨_, own.symm⟩ shorter
    refine splitWord_eq_none_iff.mp closed (middle ++ name) after ?_
    rw [← same]
    simp only [List.append_assoc]
  | case3 text before rest opened name after closed ih =>
    exact .name (first_of_splitWord opened) (first_of_splitWord closed) ih

/-- **A text is taken apart in one way.** -/
theorem Decomposes.unique (one : Decomposes marks text parts)
    (other : Decomposes marks text others) : parts = others := by
  induction one generalizing others with
  | last never =>
    cases other with
    | last _ => rfl
    | @name _ before _ name after _ opened closed _ =>
      have whole := opened.whole
      rw [closed.whole, ← List.append_assoc, ← List.append_assoc] at whole
      exact absurd whole (never before name after)
  | @name _ before _ name after _ opened closed _ ih =>
    cases other with
    | last never =>
      have whole := opened.whole
      rw [closed.whole, ← List.append_assoc, ← List.append_assoc] at whole
      exact absurd whole (never before name after)
    | name open' close' more =>
      obtain ⟨rfl, rfl⟩ := opened.unique open'
      obtain ⟨rfl, rfl⟩ := closed.unique close'
      rw [ih more]

/-- **The parts of a text are those that it is split into, and no others.** -/
theorem decomposes_iff : Decomposes marks text parts ↔ parts = split marks text := by
  constructor
  · intro parts
    exact parts.unique (decomposes_split marks text)
  · rintro rfl
    exact decomposes_split marks text

end Placeholder

end LoadTest.Text
