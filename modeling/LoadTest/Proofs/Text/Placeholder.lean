/-
**What filling in a text needs.**

A text can be filled in exactly if there is a value for each name in it, and without names it stays
as it is.

* `Placeholder.names`: the names in a text;
* `Placeholder.fill_iff`: when it can be filled in;
* `Placeholder.fill_of_values`, `Placeholder.fill_of_fault`: what it is filled in to, or what
  makes it fail;
* `Placeholder.fill_plain`: a text without names.
-/

import LoadTest.Proofs.Sequence
import LoadTest.Text.Placeholder

namespace LoadTest.Text.Placeholder

/-- The name that a part asks for. -/
def Part.name? : Part → Option (List Char)
  | .literal _ => none
  | .name text => some text

/-- **The names in a text**, in their order. -/
def names (marks : Marks) (text : List Char) : List (List Char) :=
  (split marks text).filterMap Part.name?

variable {ε : Type} {marks : Marks} {find : List Char → Except ε (List Char)} {text : List Char}

theorem mem_filterMap_name {parts : List Part} {name : List Char} :
    name ∈ parts.filterMap Part.name? ↔ .name name ∈ parts := by
  rw [List.mem_filterMap]
  constructor
  · rintro ⟨part, member, same⟩
    cases part with
    | literal literal => contradiction
    | name own =>
      obtain rfl : own = name := Option.some.inj same
      exact member
  · exact fun member => ⟨_, member, rfl⟩

/-- What holds for every name among some parts holds all over a list. -/
theorem forall_name_iff {parts : List Part} {P : List Char → Prop} :
    (∀ name, .name name ∈ parts → P name) ↔ ∀ name ∈ parts.filterMap Part.name?, P name := by
  simp only [mem_filterMap_name]

theorem mem_names {name : List Char} : name ∈ names marks text ↔ .name name ∈ split marks text :=
  mem_filterMap_name

theorem Part.fill_literal (own : List Char) : Part.fill find (.literal own) = .ok own := rfl

theorem Part.fill_name (name : List Char) : Part.fill find (.name name) = find name := rfl

/-- **A text can be filled in if and only if each of its names has a value.** -/
theorem fill_iff : (∃ filled, fill marks find text = .ok filled) ↔
    ∀ name ∈ names marks text, ∃ value, find name = .ok value := by
  have parts : (∃ filled, fill marks find text = .ok filled) ↔
      ∃ parts, (split marks text).mapM (Part.fill find) = .ok parts := by
    unfold fill
    cases (split marks text).mapM (Part.fill find) with
    | error fault => exact ⟨fun ⟨_, same⟩ => by contradiction, fun ⟨_, same⟩ => by contradiction⟩
    | ok parts => exact ⟨fun _ => ⟨parts, rfl⟩, fun _ => ⟨parts.flatten, rfl⟩⟩
  rw [parts, exists_mapM_iff]
  constructor
  · intro all name member
    exact all (.name name) (mem_names.mp member)
  · intro all part member
    cases part with
    | literal literal => exact ⟨literal, rfl⟩
    | name own => exact all own (mem_names.mpr member)

/-! ### What it gives -/

/-- The part with a text in the place of its name. -/
def Part.replaced (value : List Char → List Char) : Part → List Char
  | .literal text => text
  | .name text => value text

/-- **Some parts with a text in the place of every name**, literal text staying as it is. -/
def replaced (value : List Char → List Char) (parts : List Part) : List Char :=
  parts.flatMap (Part.replaced value)

/-- **A text whose names have values is filled in with these values.** -/
theorem fill_of_values (value : List Char → List Char)
    (found : ∀ name, .name name ∈ split marks text → find name = .ok (value name)) :
    fill marks find text = .ok (replaced value (split marks text)) := by
  have each : List.Forall₂ (fun part own => Part.fill find part = .ok own)
      (split marks text) ((split marks text).map (Part.replaced value)) := by
    rw [List.forall₂_map_right_iff, List.forall₂_same]
    intro part member
    cases part with
    | literal own => rfl
    | name own => exact found own member
  unfold fill
  rw [mapM_of_forall₂ each]
  exact congrArg Except.ok List.flatMap_def.symm

/-- **The first name without a value makes a text fail.** -/
theorem fill_of_fault {earlier later : List Part} {name : List Char} {fault : ε}
    (parts : split marks text = earlier ++ .name name :: later)
    (found : ∀ name, .name name ∈ earlier → ∃ value, find name = .ok value)
    (missing : find name = .error fault) : fill marks find text = .error fault := by
  have each : ∀ part ∈ earlier, ∃ own, Part.fill find part = .ok own := by
    intro part member
    cases part with
    | literal own => exact ⟨own, rfl⟩
    | name own => exact found own member
  unfold fill
  rw [parts, mapM_of_fault each ((Part.fill_name name).trans missing)]
  rfl

/-- **A text without names is filled in as it is.** -/
theorem fill_plain (plain : names marks text = []) : fill marks find text = .ok text := by
  have filled : fill marks find text = .ok (replaced _ (split marks text)) :=
    fill_of_values (fun name => marks.opening ++ name ++ marks.closing) fun name member =>
      absurd (plain ▸ mem_names.mpr member) List.not_mem_nil
  rw [filled]
  exact congrArg Except.ok (join_split marks text)

end LoadTest.Text.Placeholder
