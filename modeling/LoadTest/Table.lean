/-
**Tables sorted by key.**

Tags, headers by name, checks and summaries are reported in the order of their keys. A `Table` is a
list of entries whose keys ascend, so two tables with the same entries are equal.

* `Table.insert`: the entry under a key, replacing an older one;
* `Table.get?`: the value under a key;
* `Table.ofList`: of two entries under one key the later one counts;
* `Table.get?_insert`: what is found after an insertion.
-/

namespace LoadTest

/-- Entries in the order of their keys, one for each key. -/
structure Table (β : Type) where
  entries : List (String × β)
  /-- Keys ascend. -/
  ascending : entries.Pairwise fun first second => first.1 < second.1

namespace Table

variable {β γ : Type}

instance [DecidableEq β] : DecidableEq (Table β) := fun first second =>
  if same : first.entries = second.entries then
    .isTrue (by cases first; cases second; simp_all)
  else .isFalse (by rintro rfl; exact same rfl)

instance [BEq β] : BEq (Table β) := ⟨fun first second => first.entries == second.entries⟩

/-- The table without entries. -/
def empty : Table β := ⟨[], .nil⟩

instance : Inhabited (Table β) := ⟨empty⟩

/-- The entries with one more, or with another value under its key. -/
def insertEntry (key : String) (value : β) : List (String × β) → List (String × β)
  | [] => [(key, value)]
  | entry :: rest =>
    if key < entry.1 then (key, value) :: entry :: rest
    else if key = entry.1 then (key, value) :: rest
    else entry :: insertEntry key value rest

/-- Every entry after an insertion is the new one or an old one. -/
theorem mem_insertEntry {key : String} {value : β} {entries : List (String × β)}
    {entry : String × β} (member : entry ∈ insertEntry key value entries) :
    entry = (key, value) ∨ entry ∈ entries := by
  induction entries with
  | nil => simp_all [insertEntry]
  | cons head rest ih =>
    unfold insertEntry at member
    split at member
    · simpa using member
    · split at member
      · rcases List.mem_cons.mp member with new | old
        · exact .inl new
        · exact .inr (List.mem_cons_of_mem _ old)
      · rcases List.mem_cons.mp member with here | later
        · exact .inr (here ▸ List.mem_cons_self ..)
        · exact (ih later).imp_right (List.mem_cons_of_mem _)

theorem insertEntry_ascending (key : String) (value : β) (entries : List (String × β))
    (ascending : entries.Pairwise fun first second => first.1 < second.1) :
    (insertEntry key value entries).Pairwise fun first second => first.1 < second.1 := by
  induction entries with
  | nil => simp [insertEntry]
  | cons head rest ih =>
    have above := (List.pairwise_cons.mp ascending).1
    have tail := (List.pairwise_cons.mp ascending).2
    unfold insertEntry
    split
    · rename_i before
      refine List.pairwise_cons.mpr ⟨fun entry member => ?_, ascending⟩
      rcases List.mem_cons.mp member with rfl | later
      · exact before
      · exact String.lt_trans before (above entry later)
    · rename_i notBefore
      split
      · rename_i same
        exact List.pairwise_cons.mpr ⟨fun entry member => same ▸ above entry member, tail⟩
      · rename_i different
        refine List.pairwise_cons.mpr ⟨fun entry member => ?_, ih tail⟩
        rcases mem_insertEntry member with rfl | old
        · exact Std.lt_of_le_of_ne notBefore (Ne.symm different)
        · exact above entry old

/-- The table with a value under a key. -/
def insert (table : Table β) (key : String) (value : β) : Table β :=
  ⟨insertEntry key value table.entries, insertEntry_ascending key value _ table.ascending⟩

/-- The value under a key. -/
def get? (table : Table β) (key : String) : Option β := table.entries.lookup key

/-- Whether there is an entry under a key. -/
def contains (table : Table β) (key : String) : Bool := (table.get? key).isSome

/-- The table with a value under a key that has none yet. -/
def insertNew (table : Table β) (key : String) (value : β) : Table β :=
  if table.contains key then table else table.insert key value

/-- The table of a list of entries; of two under one key the later one counts. -/
def ofList (entries : List (String × β)) : Table β :=
  entries.foldl (fun table entry => table.insert entry.1 entry.2) empty

/-- The entries in the order of their keys. -/
def toList (table : Table β) : List (String × β) := table.entries

/-- The keys in their order. -/
def keys (table : Table β) : List String := table.entries.map (·.1)

/-- Whether there is no entry. -/
def isEmpty (table : Table β) : Bool := table.entries.isEmpty

/-- The table of the changed values. -/
def map (f : String → β → γ) (table : Table β) : Table γ :=
  ⟨table.entries.map fun entry => (entry.1, f entry.1 entry.2), by
    rw [List.pairwise_map]; exact table.ascending⟩

theorem lookup_cons_eq (other : String) (entry : String × β) (rest : List (String × β)) :
    (entry :: rest).lookup other = if other = entry.1 then some entry.2 else rest.lookup other := by
  rw [List.lookup_cons]
  by_cases same : other = entry.1 <;> simp [same]
  have apart : (other == entry.1) = false := by simpa using same
  rw [apart]

theorem lookup_insertEntry (key other : String) (value : β) (entries : List (String × β)) :
    (insertEntry key value entries).lookup other =
      if other = key then some value else entries.lookup other := by
  induction entries with
  | nil => simp [insertEntry, lookup_cons_eq]
  | cons head rest ih =>
    unfold insertEntry
    split
    · rw [lookup_cons_eq]
    · split <;> rename_i same
      · grind [lookup_cons_eq]
      · grind [lookup_cons_eq]

/-- **What is found after an insertion.** -/
theorem get?_insert (table : Table β) (key other : String) (value : β) :
    (table.insert key value).get? other =
      if other = key then some value else table.get? other :=
  lookup_insertEntry key other value table.entries

end Table

end LoadTest
