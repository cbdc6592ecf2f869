/-
**Free JSON is read again from what is written.**

A value that is read has no more levels than there is room for, its numbers fit 64 bits or are
floats, and its members are sorted. All this it still has in its own text, so that this is read as
the same value, as long as the floats in it are exact.

* `Json.floats`, `Json.Exact`: the floats in a value, and that they are read from their own texts;
* `Json.Source`, `Json.source_of_ofWritten`: where a value comes from, by its shape;
* `Json.ofWritten_written`: free JSON that is read is read again.
-/

import LoadTest.Proofs.Json.Numbers
import LoadTest.Proofs.Sequence
import LoadTest.Proofs.Table

namespace LoadTest

namespace Json

/-! ### Exact floats -/

mutual

/-- The floats in a value. -/
def floats : Json → List Float
  | number (.float value) => [value]
  | array items => floatsOfItems items
  | object members => floatsOfMembers members
  | _ => []

/-- The floats in items. -/
def floatsOfItems : List Json → List Float
  | [] => []
  | item :: rest => floats item ++ floatsOfItems rest

/-- The floats in members. -/
def floatsOfMembers : List (String × Json) → List Float
  | [] => []
  | (_, value) :: rest => floats value ++ floatsOfMembers rest

end

/-- **All finite floats of a value are read from their own texts.** -/
def Exact (value : Json) : Prop := ∀ x ∈ value.floats, x.isFinite = true → IsExact x

theorem floatsOfItems_eq (items : List Json) : floatsOfItems items = items.flatMap floats := by
  induction items with
  | nil => rfl
  | cons item rest ih => simp [floatsOfItems, ih]

theorem floatsOfMembers_eq (members : List (String × Json)) :
    floatsOfMembers members = members.flatMap fun member => member.2.floats := by
  induction members with
  | nil => rfl
  | cons member rest ih => simp [floatsOfMembers, ih]

theorem Exact.item {items : List Json} (exact : (array items).Exact) :
    ∀ item ∈ items, item.Exact := by
  intro item member x inside
  refine exact x ?_
  rw [floats, floatsOfItems_eq]
  exact List.mem_flatMap_of_mem member inside

theorem Exact.member {members : List (String × Json)} (exact : (object members).Exact) :
    ∀ member ∈ members, member.2.Exact := by
  intro own member x inside
  refine exact x ?_
  rw [floats, floatsOfMembers_eq]
  exact List.mem_flatMap_of_mem member inside

/-- A number that can come from a text is written as a text that it comes from. -/
theorem exists_number {number : Number} (kept : number.Kept) (exact : (Json.number number).Exact) :
    ∃ text, (Json.number number).written = .number text ∧ numberOf? text = some number :=
  exists_text kept fun x same => by
    subst same
    exact exact x List.mem_cons_self kept

/-! ### Free JSON -/

theorem itemsOfWritten_eq (room : ℕ) (items : List Written) :
    itemsOfWritten room items = items.mapM (ofWritten room) := by
  induction items with
  | nil => rfl
  | cons item rest ih =>
    rw [List.mapM_cons, ← ih]
    rfl

theorem membersOfWritten_eq (room : ℕ) (members : List (List Piece × Written)) :
    membersOfWritten room members = members.mapM (fun member => do
      some (← decodeString member.1, ← ofWritten room member.2)) := by
  induction members with
  | nil => rfl
  | cons member rest ih =>
    rw [List.mapM_cons, ← ih, membersOfWritten]
    simp only [Option.bind_eq_bind, Option.bind_assoc, Option.bind_some]
    rfl

/-- Where a value may come from, by its shape. -/
def Source (room : ℕ) : Json → Prop
  | number value => ∃ text, numberOf? text = some value
  | array items => ∃ less texts, room = less + 1 ∧ itemsOfWritten less texts = some items
  | object members => ∃ less texts entries, room = less + 1 ∧
      membersOfWritten less texts = some entries ∧ members = (Table.ofList entries).toList
  | _ => True

theorem source_of_ofWritten {room : ℕ} {text : Written} {value : Json}
    (read : ofWritten room text = some value) : Source room value := by
  cases text with
  | null | bool =>
    obtain rfl := Option.some.inj read
    trivial
  | string =>
    obtain ⟨text, -, rfl⟩ := Option.map_eq_some_iff.1 read
    trivial
  | number text =>
    obtain ⟨number, own, rfl⟩ := Option.map_eq_some_iff.1 read
    exact ⟨text, own⟩
  | array texts =>
    cases room with
    | zero => contradiction
    | succ less =>
      obtain ⟨items, own, rfl⟩ := Option.map_eq_some_iff.1 read
      exact ⟨less, texts, rfl, own⟩
  | object texts =>
    cases room with
    | zero => contradiction
    | succ less =>
      obtain ⟨entries, own, rfl⟩ := Option.map_eq_some_iff.1 read
      exact ⟨less, texts, entries, rfl, own, rfl⟩

/-- Only null is read as null. -/
theorem eq_null_of_ofWritten {room : ℕ} {text : Written} (read : ofWritten room text = some null) :
    text = .null := by
  cases text with
  | null => rfl
  | bool => cases Option.some.inj read
  | string | number =>
    obtain ⟨_, -, same⟩ := Option.map_eq_some_iff.1 read
    cases same
  | array | object =>
    cases room with
    | zero => cases read
    | succ =>
      obtain ⟨_, -, same⟩ := Option.map_eq_some_iff.1 read
      cases same

/-- **Free JSON that is read is read again from its own text.** -/
theorem ofWritten_written {value : Json} {room : ℕ} {text : Written}
    (read : ofWritten room text = some value) (exact : value.Exact) :
    ofWritten room value.written = some value := by
  have source := source_of_ofWritten read
  clear read
  induction value using inductOn generalizing room with
  | null | bool => rfl
  | string value =>
    rw [written, ofWritten, decodeString_pieces]
    rfl
  | number value =>
    obtain ⟨text, own⟩ := source
    obtain ⟨again, shape, back⟩ := exists_number (kept_of_numberOf? own) exact
    rw [shape, ofWritten, back]
    rfl
  | array items ih =>
    obtain ⟨less, texts, rfl, own⟩ := source
    rw [itemsOfWritten_eq] at own
    have each : ∀ item ∈ items, ofWritten less item.written = some item := by
      intro item member
      obtain ⟨text, -, read⟩ := exists_of_mem_mapM own member
      exact ih item member (exact.item item member) (source_of_ofWritten read)
    have back : itemsOfWritten less (writtenItems items) = some items := by
      rw [itemsOfWritten_eq, writtenItems_eq]
      exact mapM_map_of_mem each
    rw [written, ofWritten, back]
    rfl
  | object members ih =>
    obtain ⟨less, texts, entries, rfl, own, rfl⟩ := source
    rw [membersOfWritten_eq] at own
    have each : ∀ member ∈ (Table.ofList entries).toList,
        ofWritten less member.2.written = some member.2 := by
      intro member inside
      obtain ⟨text, -, read⟩ := exists_of_mem_mapM own (Table.mem_ofList inside)
      obtain ⟨key, -, read⟩ := Option.bind_eq_some_iff.1 read
      obtain ⟨value, found, same⟩ := Option.bind_eq_some_iff.1 read
      obtain rfl : (key, value) = member := Option.some.inj same
      exact ih _ inside (exact.member _ inside) (source_of_ofWritten found)
    have back : membersOfWritten less (writtenMembers (Table.ofList entries).toList) =
        some (Table.ofList entries).toList := by
      rw [membersOfWritten_eq, writtenMembers_eq]
      refine mapM_map_of_mem fun member inside => ?_
      rw [decodeString_pieces, each member inside]
      rfl
    rw [written, ofWritten, back, Option.map_some, ofMembers, Table.ofList_toList]

end Json

end LoadTest
