/-
**What stands in a value, by the keys on the way to it.**

A value that is exported has its members sorted by key. Where the keys of an object differ, sorting
leaves under each of them what was there, itself sorted. What an object that is made of a list has
under a key is the last of its entries, so entries under one key have to agree for all of them to be
found.

* `Json.at?`: what stands in a value under some keys, one after the other;
* `Json.at?_sorted`: what stands in a sorted object;
* `Json.at?_ofMembers_sorted`: what stands in one that is made of a list.
-/

import LoadTest.Json.Basic
import LoadTest.Proofs.Table

namespace LoadTest

namespace Json

/-- **What stands in a value under some keys**, each of them inside of what the one before names. -/
def at? (value : Json) (path : List String) : Option Json :=
  path.foldlM (fun part key => part.child? key.toList) value

theorem at?_object (members : List (String × Json)) (key : String) (path : List String) :
    (object members).at? (key :: path) = (members.lookup key).bind fun part => part.at? path := by
  show ((members.lookup (String.ofList key.toList)).bind fun part => part.at? path) = _
  rw [String.ofList_toList]

theorem sortedMembers_eq (members : List (String × Json)) :
    sortedMembers members = members.map fun member => (member.1, member.2.sorted) := by
  induction members with
  | nil => rfl
  | cons member rest ih => rw [sortedMembers, ih, List.map_cons]

/-- **Sorting moves members, but takes none away**, if their keys differ. -/
theorem at?_sorted {members : List (String × Json)} (apart : (members.map Prod.fst).Nodup)
    (key : String) (path : List String) : (object members).sorted.at? (key :: path) =
      (members.lookup key).bind fun part => part.sorted.at? path := by
  have keys : (members.map fun member => (member.1, member.2.sorted)).map Prod.fst =
      members.map Prod.fst := by
    rw [List.map_map]
    rfl
  have found : (Table.ofList (sortedMembers members)).toList.lookup key =
      (members.lookup key).map sorted := by
    rw [sortedMembers_eq]
    exact (Table.get?_ofList (keys ▸ apart) key).trans
      (Table.lookup_map (fun _ value => sorted value) key members)
  rw [sorted, ofMembers, at?_object, found, Option.bind_map]
  rfl

/-- An object that is made of a list has different keys. -/
theorem at?_ofMembers_sorted (entries : List (String × Json)) (key : String) (path : List String) :
    (ofMembers entries).sorted.at? (key :: path) =
      ((Table.ofList entries).get? key).bind fun part => part.sorted.at? path :=
  at?_sorted (Table.nodup_keys _) key path

end Json

end LoadTest
