/-
**What is found in a table.**

Tables are built by insertions, by maps and from lists; each of them is described by what is found
under every key afterwards.

* `Table.get?_map`, `Table.get?_ofList`, `Table.get?_insertNew`: what is found;
* `Table.ext_get?`: tables in which the same is found are equal;
* `Table.ofList_toList`: a table is made of its entries;
* `Table.sum_insert`: what the entries add up to;
* `Sample.get?_withTags`: a tag of a sample, its own ones before those of the plan.
-/

import Mathlib.Algebra.GroupWithZero.Nat
import LoadTest.Metric.Sample

namespace LoadTest

namespace Table

variable {β γ : Type}

/-! ### Insertions and maps -/

theorem get?_empty (key : String) : (empty : Table β).get? key = none := rfl

theorem lookup_map (f : String → β → γ) (key : String) (entries : List (String × β)) :
    (entries.map fun entry => (entry.1, f entry.1 entry.2)).lookup key =
      (entries.lookup key).map (f key) := by
  induction entries with
  | nil => rfl
  | cons head rest ih =>
    rw [List.map_cons, lookup_cons_eq, lookup_cons_eq, ih]
    by_cases same : key = head.1
    · rw [if_pos same, if_pos same, same]
      rfl
    · rw [if_neg same, if_neg same]

theorem get?_map (f : String → β → γ) (table : Table β) (key : String) :
    (table.map f).get? key = (table.get? key).map (f key) :=
  lookup_map f key table.entries

/-- An insertion of what is missing changes nothing that is there. -/
theorem get?_insertNew (table : Table β) (key other : String) (value : β) :
    (table.insertNew key value).get? other =
      (table.get? other).or (if other = key then some value else none) := by
  unfold insertNew contains
  by_cases there : (table.get? key).isSome
  · rw [if_pos there]
    by_cases same : other = key
    · obtain ⟨found, isFound⟩ := Option.isSome_iff_exists.mp there
      rw [same, isFound, Option.some_or]
    · rw [if_neg same, Option.or_none]
  · rw [if_neg there, get?_insert]
    by_cases same : other = key
    · rw [if_pos same, if_pos same, same, Option.not_isSome_iff_eq_none.mp there, Option.none_or]
    · rw [if_neg same, if_neg same, Option.or_none]

/-- Many insertions of what is missing: what is there stays, and of the others the first counts. -/
theorem get?_foldl_insertNew (entries : List (String × β)) (table : Table β) (key : String) :
    (entries.foldl (fun table entry => table.insertNew entry.1 entry.2) table).get? key =
      (table.get? key).or (entries.lookup key) := by
  induction entries generalizing table with
  | nil => exact Option.or_none.symm
  | cons head rest ih =>
    rw [List.foldl_cons, ih, get?_insertNew, lookup_cons_eq, Option.or_assoc]
    by_cases same : key = head.1
    · rw [if_pos same, if_pos same, Option.some_or]
    · rw [if_neg same, if_neg same, Option.none_or]

/-! ### Tables of lists -/

theorem mem_of_lookup {entries : List (String × β)} {key : String} {value : β}
    (found : entries.lookup key = some value) : (key, value) ∈ entries := by
  induction entries with
  | nil => contradiction
  | cons head rest ih =>
    rw [lookup_cons_eq] at found
    by_cases same : key = head.1
    · rw [if_pos same] at found
      rw [same, ← Option.some.inj found]
      exact List.mem_cons_self
    · rw [if_neg same] at found
      exact List.mem_cons_of_mem _ (ih found)

theorem lookup_eq_none {entries : List (String × β)} {key : String}
    (absent : key ∉ entries.map Prod.fst) : entries.lookup key = none := by
  induction entries with
  | nil => rfl
  | cons head rest ih =>
    rw [List.map_cons, List.mem_cons, not_or] at absent
    rw [lookup_cons_eq, if_neg absent.1, ih absent.2]

/-- Many insertions: of two under one key the later one counts. -/
theorem get?_foldl_insert (entries : List (String × β)) (table : Table β) (key : String) :
    (entries.foldl (fun table entry => table.insert entry.1 entry.2) table).get? key =
      (entries.reverse.lookup key).or (table.get? key) := by
  induction entries generalizing table with
  | nil => exact Option.none_or.symm
  | cons head rest ih =>
    rw [List.foldl_cons, ih, get?_insert, List.reverse_cons, List.lookup_append, Option.or_assoc,
      lookup_cons_eq]
    by_cases same : key = head.1
    · rw [if_pos same, if_pos same, Option.some_or]
    · rw [if_neg same, if_neg same, List.lookup_nil, Option.none_or]

/-- **A table of a list holds the last entry under each key.** -/
theorem get?_ofList_eq (entries : List (String × β)) (key : String) :
    (ofList entries).get? key = entries.reverse.lookup key := by
  unfold ofList
  rw [get?_foldl_insert, get?_empty, Option.or_none]

/-- It holds a value under the keys of the list. -/
theorem isSome_get?_ofList (entries : List (String × β)) (key : String) :
    ((ofList entries).get? key).isSome ↔ ∃ entry ∈ entries, entry.1 = key := by
  rw [get?_ofList_eq, List.lookup_isSome_iff]
  simp only [List.mem_reverse, beq_iff_eq, @eq_comm String key]

/-- Where the entries under a key agree, it holds what they say. -/
theorem get?_ofList_of_agree {entries : List (String × β)} {key : String} {value : β}
    (inside : (key, value) ∈ entries)
    (agree : ∀ entry ∈ entries, entry.1 = key → entry.2 = value) :
    (ofList entries).get? key = some value := by
  obtain ⟨other, found⟩ := Option.isSome_iff_exists.1
    ((isSome_get?_ofList entries key).2 ⟨_, inside, rfl⟩)
  rw [get?_ofList_eq] at found
  rw [get?_ofList_eq, found, ← agree _ (List.mem_reverse.1 (mem_of_lookup found)) rfl]

theorem mem_foldl_insert {entries : List (String × β)} {table : Table β} {entry : String × β}
    (member : entry ∈
      (entries.foldl (fun table entry => table.insert entry.1 entry.2) table).entries) :
    entry ∈ table.entries ∨ entry ∈ entries := by
  induction entries generalizing table with
  | nil => exact .inl member
  | cons head rest ih =>
    rcases ih member with before | later
    · rcases mem_insertEntry before with rfl | old
      · exact .inr List.mem_cons_self
      · exact .inl old
    · exact .inr (List.mem_cons_of_mem _ later)

/-- A table of a list holds nothing else. -/
theorem mem_ofList {entries : List (String × β)} {entry : String × β}
    (member : entry ∈ (ofList entries).entries) : entry ∈ entries :=
  (mem_foldl_insert member).resolve_left List.not_mem_nil

/-! ### Tables with the same entries -/

theorem lookup_of_mem {entries : List (String × β)} (apart : (entries.map Prod.fst).Nodup)
    {entry : String × β} (member : entry ∈ entries) : entries.lookup entry.1 = some entry.2 := by
  induction entries with
  | nil => exact absurd member List.not_mem_nil
  | cons head rest ih =>
    rw [List.map_cons, List.nodup_cons] at apart
    rw [lookup_cons_eq]
    rcases List.mem_cons.mp member with rfl | later
    · exact if_pos rfl
    · have other : entry.1 ≠ head.1 := fun same =>
        apart.1 (same ▸ List.mem_map_of_mem later)
      rw [if_neg other, ih apart.2 later]

/-- Under different keys the order of entries does not matter. -/
theorem lookup_perm {entries others : List (String × β)} (apart : (entries.map Prod.fst).Nodup)
    (same : entries.Perm others) (key : String) : others.lookup key = entries.lookup key := by
  cases found : entries.lookup key with
  | some value =>
    have apartToo : (others.map Prod.fst).Nodup := (same.map Prod.fst).nodup_iff.mp apart
    exact lookup_of_mem apartToo (same.mem_iff.mp (mem_of_lookup found))
  | none =>
    cases other : others.lookup key with
    | none => rfl
    | some value =>
      have here := lookup_of_mem apart (same.mem_iff.mpr (mem_of_lookup other))
      rw [found] at here
      contradiction

/-- A table of entries under different keys holds what the list holds. -/
theorem get?_ofList {entries : List (String × β)} (apart : (entries.map Prod.fst).Nodup)
    (key : String) : (ofList entries).get? key = entries.lookup key := by
  rw [get?_ofList_eq, lookup_perm apart (List.reverse_perm _).symm]

theorem nodup_keys (table : Table β) : (table.entries.map Prod.fst).Nodup :=
  List.pairwise_map.mpr (table.ascending.imp fun below => String.ne_of_lt below)

theorem nodup_entries (table : Table β) : table.entries.Nodup :=
  table.ascending.imp fun below same => String.ne_of_lt below (congrArg Prod.fst same)

/-- **Tables in which the same is found are equal.** -/
theorem ext_get? {table other : Table β} (same : ∀ key, table.get? key = other.get? key) :
    table = other := by
  have transfer {first second : Table β} (found : ∀ key, first.get? key = second.get? key)
      (entry : String × β) (member : entry ∈ first.entries) : entry ∈ second.entries := by
    have here : second.get? entry.1 = some entry.2 :=
      (found entry.1).symm.trans (lookup_of_mem first.nodup_keys member)
    exact mem_of_lookup here
  have perm : table.entries.Perm other.entries :=
    (List.perm_ext_iff_of_nodup table.nodup_entries other.nodup_entries).mpr fun entry =>
      ⟨transfer same entry, transfer (fun key => (same key).symm) entry⟩
  have entries : table.entries = other.entries :=
    perm.eq_of_pairwise (fun _ _ _ _ below above => absurd (String.lt_trans below above)
      (String.lt_irrefl _)) table.ascending other.ascending
  cases table
  cases other
  obtain rfl := entries
  rfl

/-- **A table is made of its entries.** -/
theorem ofList_toList (table : Table β) : ofList table.toList = table :=
  ext_get? fun key => get?_ofList table.nodup_keys key

/-! ### Sums -/

/-- The sum of a count over all entries. -/
def sum (table : Table β) (count : β → Nat) : Nat :=
  (table.entries.map fun entry => count entry.2).sum

theorem sum_insertEntry (count : β → Nat) (key : String) (value : β) {entries : List (String × β)}
    (ascending : entries.Pairwise fun first second => first.1 < second.1) :
    ((insertEntry key value entries).map fun entry => count entry.2).sum +
        ((entries.lookup key).map count).getD 0 =
      (entries.map fun entry => count entry.2).sum + count value := by
  induction entries with
  | nil => simp [insertEntry]
  | cons head rest ih =>
    obtain ⟨above, tail⟩ := List.pairwise_cons.mp ascending
    unfold insertEntry
    by_cases before : key < head.1
    · -- All keys are above the new one, so nothing is replaced.
      have absent : key ∉ (head :: rest).map Prod.fst := by
        intro member
        obtain ⟨entry, inside, rfl⟩ := List.mem_map.mp member
        rcases List.mem_cons.mp inside with rfl | later
        · exact absurd before (String.lt_irrefl _)
        · exact absurd (String.lt_trans before (above entry later)) (String.lt_irrefl _)
      rw [if_pos before, lookup_eq_none absent]
      simp only [List.map_cons, List.sum_cons, Option.map_none, Option.getD_none]
      omega
    rw [if_neg before, lookup_cons_eq]
    by_cases same : key = head.1
    · rw [if_pos same, if_pos same]
      simp only [List.map_cons, List.sum_cons, Option.map_some, Option.getD_some]
      omega
    · have later := ih tail
      rw [if_neg same, if_neg same]
      simp only [List.map_cons, List.sum_cons]
      omega

/-- An insertion changes a sum by what is inserted less what is replaced. -/
theorem sum_insert (table : Table β) (count : β → Nat) (key : String) (value : β) :
    (table.insert key value).sum count + ((table.get? key).map count).getD 0 =
      table.sum count + count value :=
  sum_insertEntry count key value table.ascending

end Table

/-- **A tag of a sample: its own one, or else that of the plan.** -/
theorem Sample.get?_withTags {α : Type} (sample : Sample α) (tags : Tags) (key : String) :
    (sample.withTags tags).tags.get? key = (sample.tags.get? key).or (tags.get? key) :=
  Table.get?_foldl_insertNew tags.entries sample.tags key

end LoadTest
