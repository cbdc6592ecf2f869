/-
**Records are read again from what is written.**

A record may be read from an object with its members in any order, or from an array, and some of its
members may be missing. It is written as an object with all of them. That object holds what the
record needs, so that each field is read again, and with them the record. Of shapes that are tried
one after the other, the first that fits what is written has to be the one that has been read.

* `Reader.exists_members`, `Reader.exists_object`: the record that is read from what is written;
* `Reader.Again`: a record that is read again;
* `Reader.Survives.need`, `.withDefault`, `.maybe`: its fields;
* `Reader.Survives.object`, `.record`: records of fields that are read again;
* `Reader.Legible`, `Reader.Survives.firstOf`: shapes that are tried one after the other.
-/

import LoadTest.Proofs.Json.Survival

namespace LoadTest

namespace Json

namespace Reader

variable {β γ : Type} {reader : Reader β} {json : β → Json} {least : ℕ}

/-! ### What is read from what is written -/

/-- **A record that has all fields of a value as they are written.** -/
def Holds (record : Record) (fields : List (String × Json)) : Prop :=
  ∀ field ∈ fields, record.members.lookup field.1 = some field.2.written

/-- Members that a record knows and that differ are all taken. -/
theorem knownMembers_written {names : List String} (unknown : Unknown)
    {fields : List (String × Json)} (known : ∀ field ∈ fields, field.1 ∈ names)
    (apart : (fields.map Prod.fst).Nodup) (before : List (String × Written))
    (fresh : ∀ field ∈ fields, before.lookup field.1 = none) :
    knownMembers names unknown (writtenMembers fields) before =
      some ((fields.map fun field => (field.1, field.2.written)).reverse ++ before) := by
  induction fields generalizing before with
  | nil => rfl
  | cons field rest ih =>
    obtain ⟨key, value⟩ := field
    obtain ⟨absent, apart⟩ := List.nodup_cons.1 apart
    have isKnown : names.contains key = true :=
      List.contains_iff_mem.2 (known _ List.mem_cons_self)
    have isFresh : (before.lookup key).isSome = false := by
      rw [fresh _ List.mem_cons_self]
      rfl
    have later := ih (fun other inside => known other (List.mem_cons_of_mem _ inside)) apart
      ((key, value.written) :: before) fun other inside => by
        have differs : other.1 ≠ key := fun same =>
          absent (List.mem_map.2 ⟨other, inside, same⟩)
        rw [Table.lookup_cons_eq, if_neg differs]
        exact fresh other (List.mem_cons_of_mem _ inside)
    show ((decodeString (pieces key)).bind fun key => if names.contains key then
      if (before.lookup key).isSome then none
      else knownMembers names unknown (writtenMembers rest) ((key, value.written) :: before)
      else _) = _
    rw [decodeString_pieces, Option.bind_some, if_pos isKnown, isFresh, if_neg Bool.false_ne_true,
      later, List.map_cons, List.reverse_cons, List.append_assoc]
    rfl

/-- **What is written of some fields of a record is read as a record of just these.** -/
theorem exists_members {names : List String} (unknown : Unknown) (read : Record → Option β)
    {fields : List (String × Json)} (known : ∀ field ∈ fields, field.1 ∈ names)
    (apart : (fields.map Prod.fst).Nodup) (room : ℕ) : ∃ record : Record, record.room = room ∧
      record.positional = false ∧
      (∀ name, record.members.lookup name = (fields.lookup name).map written) ∧
      Reader.object names unknown read (room + 1) (Json.object fields).written = read record := by
  have members := knownMembers_written unknown known apart [] fun _ _ => rfl
  rw [List.append_nil] at members
  refine ⟨⟨room, false, (fields.map fun field => (field.1, field.2.written)).reverse⟩, rfl, rfl,
    fun name => ?_, ?_⟩
  · have keys : (fields.map fun field => (field.1, field.2.written)).map Prod.fst =
        fields.map Prod.fst := by
      rw [List.map_map]
      rfl
    show (fields.map fun field => (field.1, field.2.written)).reverse.lookup name = _
    rw [Table.lookup_perm (keys ▸ apart) (List.reverse_perm _).symm]
    exact Table.lookup_map (fun _ value => value.written) name fields
  · rw [written, object, members]
    rfl

/-- **What is written of a record is read as a record that holds its fields.** -/
theorem exists_object {names : List String} (unknown : Unknown) (read : Record → Option β)
    {fields : List (String × Json)} (known : fields.map Prod.fst = names) (apart : names.Nodup)
    (room : ℕ) : ∃ record : Record, record.room = room ∧ Holds record fields ∧
      Reader.object names unknown read (room + 1) (Json.object fields).written = read record := by
  obtain ⟨record, isRoom, -, members, same⟩ := exists_members unknown read
    (fun field inside => known ▸ List.mem_map_of_mem inside) (known ▸ apart) room
  refine ⟨record, isRoom, fun field inside => ?_, same⟩
  rw [members, Table.lookup_of_mem (known ▸ apart) inside]
  rfl

/-! ### Fields that are read again -/

/-- **A record that is read again**: it holds the fields of a value that another one was read as,
with as much room as that one had, and their floats are exact. -/
structure Again (least : ℕ) (source : Record) (fields : List (String × Json)) (record : Record) :
    Prop where
  deep : least ≤ source.room
  room : record.room = source.room
  holds : Holds record fields
  exact : ∀ field ∈ fields, field.2.Exact

section Fields

variable {source record : Record} {fields : List (String × Json)} {name : String} {value : β}

theorem Survives.need (survives : Survives least reader json) {more : ℕ}
    (again : Again more source fields record) (read : source.need name reader = some value)
    (inside : (name, json value) ∈ fields) (order : least ≤ more) :
    record.need name reader = some value := by
  obtain ⟨text, -, own⟩ := Option.bind_eq_some_iff.1 read
  rw [Record.need, again.holds _ inside, Option.bind_some, again.room]
  exact survives _ text value (order.trans again.deep) own (again.exact _ inside)

/-- A field that has taken its default is written, too, so the default has to be read again. -/
theorem Survives.withDefault (survives : Survives least reader json) {more : ℕ} {default : β}
    (standard : ∀ room, least ≤ room → reader room (json default).written = some default)
    (again : Again more source fields record)
    (read : source.withDefault name reader default = some value)
    (inside : (name, json value) ∈ fields) (order : least ≤ more) :
    record.withDefault name reader default = some value := by
  have deep := order.trans again.deep
  have found := again.holds _ inside
  rw [Record.withDefault, found]
  show reader record.room (json value).written = some value
  rw [again.room]
  unfold Record.withDefault at read
  cases member : source.members.lookup name with
  | none =>
    rw [member] at read
    obtain rfl := Option.some.inj read
    exact standard _ deep
  | some text =>
    rw [member] at read
    exact survives _ text value deep read (again.exact _ inside)

/-- What may be absent is null then, which must not be taken for a value. -/
theorem Survives.maybe (survives : Survives least reader json)
    (refuses : ∀ room, reader room .null = none) {more : ℕ} {value : Option β}
    (again : Again more source fields record) (read : source.maybe name reader = some value)
    (inside : (name, .ofOption json value) ∈ fields) (order : least ≤ more) :
    record.maybe name reader = some value :=
  (survives.nullable (survives.present refuses)).withDefault (fun _ _ => rfl) again read inside
    order

theorem Again.word {more : ℕ} {value : Option String} (again : Again more source fields record)
    (read : source.maybe name string = some value)
    (inside : (name, .ofOption Json.string value) ∈ fields) :
    record.maybe name string = some value :=
  survives_string.maybe (fun _ => rfl) again read inside (Nat.zero_le _)

theorem Again.words {more : ℕ} {value : Table String}
    (again : Again (more + 1) source fields record)
    (read : source.withDefault name (table string) .empty = some value)
    (inside : (name, .ofTable Json.string value) ∈ fields) :
    record.withDefault name (table string) .empty = some value :=
  survives_string.table.withDefault table_empty again read inside (Nat.le_add_left _ _)

theorem Again.number {more limit : ℕ} {value : Option ℕ} (again : Again more source fields record)
    (read : source.maybe name (nat limit) = some value)
    (inside : (name, .ofOption .ofNat value) ∈ fields) (fits : limit ≤ Decimal.maxWord) :
    record.maybe name (nat limit) = some value :=
  (survives_nat fits).maybe (fun _ => rfl) again read inside (Nat.zero_le _)

theorem exists_of_need (read : source.need name reader = some value) :
    ∃ text, reader source.room text = some value := by
  obtain ⟨text, -, own⟩ := Option.bind_eq_some_iff.1 read
  exact ⟨text, own⟩

theorem exists_of_maybe (read : source.maybe name reader = some (some value)) :
    ∃ text, reader source.room text = some value := by
  unfold Record.maybe Record.withDefault at read
  split at read
  · cases Option.some.inj read
  · rename_i text _
    cases text with
    | null => cases Option.some.inj read
    | _ =>
      obtain ⟨own, found, same⟩ := Option.map_eq_some_iff.1 read
      exact ⟨_, Option.some.inj same ▸ found⟩

end Fields

/-! ### Records -/

/-- Whoever reads a record reads its fields as they are written. -/
def Restores (least : ℕ) (names : List String) (read : Record → Option β) (json : β → Json) :
    Prop :=
  ∀ source value, read source = some value → ∃ fields, json value = .object fields ∧
    fields.map Prod.fst = names ∧
    ∀ record, Again least source fields record → read record = some value

variable {names : List String} {read : Record → Option β} {unknown : Unknown}

/-- What has been read of some record is read again from the object that is written. -/
theorem Restores.object_eq (restores : Restores least names read json) (apart : names.Nodup)
    {source : Record} {value : β} (deep : least ≤ source.room) (own : read source = some value)
    (exact : (json value).Exact) :
    Reader.object names unknown read (source.room + 1) (json value).written = some value := by
  obtain ⟨fields, shape, known, back⟩ := restores source value own
  rw [shape] at exact ⊢
  obtain ⟨record, room, holds, same⟩ := exists_object unknown read known apart source.room
  rw [same]
  exact back record ⟨deep, room, holds, exact.member⟩

theorem source_of_object {room : ℕ} {text : Written} {value : β}
    (own : Reader.object names unknown read room text = some value) :
    ∃ source, room = source.room + 1 ∧ read source = some value := by
  cases text with
  | object members =>
    cases room with
    | zero => contradiction
    | succ less =>
      obtain ⟨known, -, own⟩ := Option.bind_eq_some_iff.1 own
      exact ⟨⟨less, false, known⟩, rfl, own⟩
  | _ => cases room <;> contradiction

theorem source_of_record {room : ℕ} {text : Written} {value : β}
    (own : Reader.record names unknown read room text = some value) :
    ∃ source, room = source.room + 1 ∧ read source = some value := by
  by_cases positional : ∃ less items, room = less + 1 ∧ text = .array items
  · obtain ⟨less, items, rfl, rfl⟩ := positional
    rw [Reader.record] at own
    split at own
    · exact ⟨⟨less, true, names.zip items⟩, rfl, own⟩
    · contradiction
  · rw [Reader.record] at own
    · exact source_of_object own
    · rintro less items rfl rfl
      exact positional ⟨less, items, rfl, rfl⟩

theorem Restores.object (restores : Restores least names read json) (apart : names.Nodup) :
    Survives (least + 1) (Reader.object names unknown read) json := by
  intro room text value deep own exact
  obtain ⟨source, rfl, found⟩ := source_of_object own
  exact restores.object_eq apart (Nat.le_of_succ_le_succ deep) found exact

/-- **A record is read again**, whether it was an object or an array. -/
theorem Restores.record (restores : Restores least names read json) (apart : names.Nodup) :
    Survives (least + 1) (Reader.record names unknown read) json := by
  intro room text value deep own exact
  obtain ⟨source, rfl, found⟩ := source_of_record own
  have back :
      Reader.object names unknown read (source.room + 1) (json value).written = some value :=
    restores.object_eq apart (Nat.le_of_succ_le_succ deep) found exact
  obtain ⟨fields, shape, -⟩ := restores source value found
  rw [shape] at back ⊢
  exact back

/-! ### Shapes that are tried one after the other -/

/-- What can be read as a whole, whatever it is taken for. -/
def Legible (room : ℕ) (text : Written) : Prop := ∃ value, ofWritten room text = some value

theorem legible_string (room : ℕ) (value : String) : Legible room (Json.string value).written :=
  ⟨.string value, by rw [written, ofWritten, decodeString_pieces]; rfl⟩

/-- What may be absent is legible if it is legible where it is there. -/
theorem legible_option {room : ℕ} {value : Option β}
    (each : ∀ own, value = some own → Legible room (json own).written) :
    Legible room (Json.ofOption json value).written := by
  cases value with
  | none => exact ⟨.null, rfl⟩
  | some own => exact each own rfl

theorem legible_object {room : ℕ} {fields : List (String × Json)}
    (each : ∀ field ∈ fields, Legible room field.2.written) :
    Legible (room + 1) (Json.object fields).written := by
  obtain ⟨members, made⟩ : ∃ members,
      membersOfWritten room (writtenMembers fields) = some members := by
    rw [membersOfWritten_eq, writtenMembers_eq, exists_mapM_some_iff]
    intro member inside
    obtain ⟨field, own, rfl⟩ := List.mem_map.1 inside
    obtain ⟨value, legible⟩ := each field own
    exact ⟨(field.1, value), by rw [decodeString_pieces, legible]; rfl⟩
  exact ⟨ofMembers members, by rw [written, ofWritten, made]; rfl⟩

/-- Shapes are tried on what is legible. -/
theorem legible_of_firstOf {shapes : List (Reader β)} {room : ℕ} {text : Written} {value : β}
    (read : firstOf shapes room text = some value) : Legible room text := by
  unfold firstOf at read
  cases whole : ofWritten room text with
  | none =>
    rw [whole] at read
    contradiction
  | some own => exact ⟨own, whole⟩

theorem firstOf_of_legible {shapes : List (Reader β)} {room : ℕ} {text : Written}
    (legible : Legible room text) :
    firstOf shapes room text = shapes.findSome? fun shape => shape room text := by
  obtain ⟨own, whole⟩ := legible
  unfold firstOf
  rw [whole]

/-- What a reader has read can be read as a whole once it is written. -/
def Lasts (least : ℕ) (reader : Reader β) (json : β → Json) : Prop :=
  ∀ room text value, least ≤ room → reader room text = some value → (json value).Exact →
    Legible room (json value).written

theorem Lasts.mono (lasts : Lasts least reader json) {more : ℕ} (order : least ≤ more) :
    Lasts more reader json :=
  fun room text value deep => lasts room text value (order.trans deep)

theorem lasts_string : Lasts 0 string Json.string := fun room _ value _ _ _ =>
  legible_string room value

theorem lasts_float : Lasts 0 float .ofFloat := by
  intro room text value _ read exact
  obtain ⟨source, shape, back⟩ := @exists_number (.float value) (isFinite_of_float read) exact
  exact ⟨.number (.float value), by rw [Json.ofFloat, shape, ofWritten, back]; rfl⟩

theorem Survives.lasts {shapes : List (Reader β)}
    (survives : Survives least (.firstOf shapes) json) :
    Lasts least (.firstOf shapes) json :=
  fun room text value deep read exact =>
    legible_of_firstOf (survives room text value deep read exact)

/-- **The first of two shapes that fits is the one that has been read**, if the first one does not
fit what the second one writes. -/
theorem Survives.firstOf {first second : Reader β} (one : Survives least first json)
    (other : Survives least second json) (legibleOne : Lasts least first json)
    (legibleOther : Lasts least second json)
    (apart : ∀ room text value, second room text = some value →
      first room (json value).written = none) :
    Survives least (.firstOf [first, second]) json := by
  intro room text value deep read exact
  have tried := (firstOf_of_legible (legible_of_firstOf read)).symm.trans read
  rw [List.findSome?_cons] at tried
  cases fits : first room text with
  | some own =>
    rw [fits] at tried
    obtain rfl := Option.some.inj tried
    rw [firstOf_of_legible (legibleOne room text own deep fits exact), List.findSome?_cons,
      one room text own deep fits exact]
  | none =>
    rw [fits] at tried
    have fits : second room text = some value := by
      rw [List.findSome?_singleton] at tried
      exact tried
    rw [firstOf_of_legible (legibleOther room text value deep fits exact), List.findSome?_cons,
      apart room text value fits, List.findSome?_singleton, other room text value deep fits exact]

theorem Lasts.wrap (wrap : β → γ) {outer : γ → Json}
    (lasts : Lasts least reader fun value => outer (wrap value)) :
    Lasts least (fun room text => (reader room text).map wrap) outer := by
  intro room text value deep read exact
  obtain ⟨own, found, rfl⟩ := Option.map_eq_some_iff.1 read
  exact lasts room text own deep found exact

/-- A value that is wrapped is read again inside of what wraps it. -/
theorem Survives.wrap (wrap : β → γ) {outer : γ → Json}
    (survives : Survives least reader fun value => outer (wrap value)) :
    Survives least (fun room text => (reader room text).map wrap) outer := by
  intro room text value deep read exact
  obtain ⟨own, found, rfl⟩ := Option.map_eq_some_iff.1 read
  exact congrArg (Option.map wrap) (survives room text own deep found exact)

end Reader

end Json

end LoadTest
