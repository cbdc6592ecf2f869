/-
**What is read is read again from what is written.**

A reader may take a value in several forms, its writer has only one. The reader takes that one, too,
and gives the same value, as long as the floats in it are exact. This holds of the readers of texts,
numbers and free JSON, and of lists, tables and options of what it holds of.

* `Reader.Survives`: a reader gives back what it has read once;
* `Reader.survives_string`, `.survives_nat`, `.survives_float`, `.survives_json`: single values;
* `Reader.Survives.list`, `.table`, `.nullable`: values made of others;
* `Reader.table_of_each`, `Reader.table_of_unread`: whether a table is read;
* `Reader.Present`: what is there is not written as null, which would be its absence.
-/

import LoadTest.Proofs.Json.Exact

namespace LoadTest

namespace Json

namespace Reader

variable {β : Type} {reader : Reader β} {json : β → Json} {least : ℕ}

/-- **A reader gives back what it has read once**: what is written of a value that it has read is
read as that value, wherever there is room for at least so many levels. -/
def Survives (least : ℕ) (reader : Reader β) (json : β → Json) : Prop :=
  ∀ room text value, least ≤ room → reader room text = some value → (json value).Exact →
    reader room (json value).written = some value

theorem Survives.mono (survives : Survives least reader json) {more : ℕ} (order : least ≤ more) :
    Survives more reader json :=
  fun room text value deep => survives room text value (order.trans deep)

/-! ### Single values -/

theorem survives_string : Survives 0 string Json.string :=
  fun _ _ value _ _ _ => decodeString_pieces value

theorem survives_bool : Survives 0 bool Json.bool := fun _ _ _ _ _ _ => rfl

/-- The text of a whole number of 64 bits is read by every reader whose limit it meets. -/
theorem survives_nat {limit : ℕ} (fits : limit ≤ Decimal.maxWord) :
    Survives 0 (nat limit) .ofNat := by
  intro room text value _ read _
  have bound : value ≤ limit := by
    cases text with
    | number text =>
      unfold nat at read
      dsimp only at read
      split at read
      · split at read
        · rename_i small
          exact Option.some.inj read ▸ small
        · contradiction
      · contradiction
    | _ => contradiction
  show nat limit room (.number (Nat.toDigits 10 value)) = some value
  unfold nat
  dsimp only
  rw [numberOf?_natural (bound.trans fits)]
  exact if_pos bound

/-- What is read as a float is finite. -/
theorem isFinite_of_float {room : ℕ} {text : Written} {value : Float}
    (read : float room text = some value) : value.isFinite = true := by
  cases text with
  | number text =>
    obtain ⟨number, own, rfl⟩ := Option.map_eq_some_iff.1 read
    exact isFinite_toFloat (kept_of_numberOf? own)
  | _ => contradiction

theorem survives_float : Survives 0 float .ofFloat := by
  intro room text value _ read exact
  obtain ⟨source, shape, back⟩ := @exists_number (.float value) (isFinite_of_float read) exact
  rw [Json.ofFloat, shape, float, back]
  rfl

theorem survives_json : Survives 0 Reader.json id :=
  fun _ _ _ _ read exact => ofWritten_written read exact

/-! ### Lists, tables and options -/

theorem Survives.list (survives : Survives least reader json) :
    Survives (least + 1) (list reader) (.ofList json) := by
  intro room text values deep read exact
  obtain ⟨less, rfl⟩ : ∃ less, room = less + 1 := ⟨room - 1, by omega⟩
  cases text with
  | array texts =>
    rw [Json.ofList, written, writtenItems_eq, List.map_map]
    refine mapM_map_of_mem fun value member => ?_
    obtain ⟨text, -, own⟩ := exists_of_mem_mapM read member
    exact survives _ text value (by omega) own (exact.item _ (List.mem_map_of_mem member))
  | _ => contradiction

theorem list_nil (room : ℕ) (deep : least + 1 ≤ room) :
    list reader room (Json.ofList json []).written = some [] := by
  obtain ⟨less, rfl⟩ : ∃ less, room = less + 1 := ⟨room - 1, by omega⟩
  rfl

theorem list_null (room : ℕ) : list reader room .null = none := by
  cases room <;> rfl

/-- **A table is read if each of its values is.** -/
theorem table_of_each {room : ℕ} {value : Table β}
    (each : ∀ entry ∈ value.toList, reader room (json entry.2).written = some entry.2) :
    table reader (room + 1) (Json.ofTable json value).written = some value := by
  have back : ((writtenMembers (value.toList.map fun entry => (entry.1, json entry.2))).mapM
      fun member => do some (← decodeString member.1, ← reader room member.2)) =
        some value.toList := by
    rw [writtenMembers_eq, List.map_map]
    refine mapM_map_of_mem fun entry inside => ?_
    simp [each entry inside]
  rw [Json.ofTable, written]
  exact (congrArg (Option.map Table.ofList) back).trans (congrArg some (Table.ofList_toList _))

/-- A table is not read if one of its values is not. -/
theorem table_of_unread {room : ℕ} {value : Table β} {entry : String × β}
    (inside : entry ∈ value.toList) (unread : reader room (json entry.2).written = none) :
    table reader (room + 1) (Json.ofTable json value).written = none := by
  rw [Json.ofTable, written, table, Option.map_eq_none_iff]
  by_contra some
  obtain ⟨results, made⟩ := Option.ne_none_iff_exists'.1 some
  rw [writtenMembers_eq, List.map_map] at made
  obtain ⟨result, own⟩ := exists_mapM_some_iff.1 ⟨results, made⟩ _ (List.mem_map_of_mem inside)
  simp [unread] at own

theorem Survives.table (survives : Survives least reader json) :
    Survives (least + 1) (table reader) (.ofTable json) := by
  intro room text value deep read exact
  obtain ⟨less, rfl⟩ : ∃ less, room = less + 1 := ⟨room - 1, by omega⟩
  cases text with
  | object texts =>
    obtain ⟨entries, made, rfl⟩ := Option.map_eq_some_iff.1 read
    refine table_of_each fun entry inside => ?_
    obtain ⟨text, -, own⟩ := exists_of_mem_mapM made (Table.mem_ofList inside)
    obtain ⟨key, -, own⟩ := Option.bind_eq_some_iff.1 own
    obtain ⟨value, found, same⟩ := Option.bind_eq_some_iff.1 own
    obtain rfl : (key, value) = entry := Option.some.inj same
    exact survives _ text.2 value (by omega) found
      (exact.member _ (List.mem_map_of_mem (f := fun entry => (entry.1, json entry.2)) inside))
  | _ => contradiction

theorem table_empty (room : ℕ) (deep : least + 1 ≤ room) :
    table reader room (Json.ofTable json .empty).written = some .empty := by
  obtain ⟨less, rfl⟩ : ∃ less, room = less + 1 := ⟨room - 1, by omega⟩
  rfl

/-- A value that is there is not written as null. -/
def Present (least : ℕ) (reader : Reader β) (json : β → Json) : Prop :=
  ∀ room text value, least ≤ room → text ≠ .null → reader room text = some value →
    (json value).Exact → (json value).written ≠ .null

/-- What refuses null never writes it. -/
theorem Survives.present (survives : Survives least reader json)
    (refuses : ∀ room, reader room .null = none) : Present least reader json := by
  intro room text value deep _ read exact null
  have back := survives room text value deep read exact
  rw [null, refuses] at back
  contradiction

theorem present_json : Present 0 Reader.json id := by
  intro room text value _ other read exact
  have source := source_of_ofWritten read
  cases value with
  | null => exact absurd (eq_null_of_ofWritten read) other
  | number value =>
    obtain ⟨text, own⟩ := source
    obtain ⟨again, shape, -⟩ := exists_number (kept_of_numberOf? own) exact
    rw [id, shape]
    exact Written.noConfusion
  | _ => simp [written]

theorem nullable_of_ne {text : Written} (other : text ≠ .null) (room : ℕ) :
    nullable reader room text = (reader room text).map some := by
  cases text with
  | null => contradiction
  | _ => rfl

/-- Null is the absence of a value, and nothing else is. -/
theorem Survives.nullable (survives : Survives least reader json)
    (present : Present least reader json) : Survives least (nullable reader) (.ofOption json) := by
  intro room text value deep read exact
  cases value with
  | none => rfl
  | some value =>
    have other : text ≠ .null := by
      rintro rfl
      exact absurd (Option.some.inj read) (by simp)
    rw [nullable_of_ne other] at read
    obtain ⟨own, found, same⟩ := Option.map_eq_some_iff.1 read
    obtain rfl : own = value := Option.some.inj same
    have back := survives room text own deep found exact
    rw [Json.ofOption, nullable_of_ne (present room text own deep other found exact), back]
    rfl

end Reader

end Json

end LoadTest
