/-
**Computations that are made one after the other and can fail.**

* `ok_of_bind`, `all_of_forM`: what succeeds as a whole succeeds in its parts;
* `bind_eq_ok_iff`, `forM_of_all`: and what succeeds in its parts succeeds as a whole;
* `ok_of_map`, `ok_of_mapError`: what succeeds does so before its value or its fault is changed;
* `forall₂_of_mapM`, `mapM_of_forall₂`: all of some computations succeed exactly if each one does,
  and give what each one gives;
* `exists_mapM_iff`, `exists_mapM_some_iff`: whether they succeed, whatever they give;
* `mapM_of_fault`: the first failure counts;
* `exists_of_mem_mapM`, `mapM_map_of_mem`: where results come from, and when they are the items;
* `place_of_split`, `place_of_concat`: the items before one of them, and behind it.
-/

import Mathlib.Data.List.Forall2

namespace LoadTest

/-- A sequence of checks that is passed passes its first one. -/
theorem ok_of_bind {ε α β : Type} {first : Except ε α} {rest : α → Except ε β} {result : β}
    (passed : first >>= rest = .ok result) :
    ∃ value, first = .ok value ∧ rest value = .ok result := by
  cases first with
  | error fault => contradiction
  | ok value => exact ⟨value, rfl, passed⟩

theorem bind_eq_ok_iff {ε α β : Type} {first : Except ε α} {rest : α → Except ε β} {result : β} :
    first >>= rest = .ok result ↔ ∃ value, first = .ok value ∧ rest value = .ok result := by
  refine ⟨ok_of_bind, ?_⟩
  rintro ⟨value, rfl, last⟩
  exact last

/-- What is checked one by one is right all over. -/
theorem all_of_forM {ε α : Type} {check : α → Except ε PUnit} {items : List α}
    (passed : items.forM check = .ok ()) : ∀ item ∈ items, check item = .ok () := by
  induction items with
  | nil => exact fun _ member => absurd member List.not_mem_nil
  | cons first rest ih =>
    change (check first >>= fun _ => rest.forM check) = .ok () at passed
    obtain ⟨⟨⟩, now, later⟩ := ok_of_bind passed
    intro item member
    rcases List.mem_cons.mp member with rfl | other
    · exact now
    · exact ih later item other

theorem forM_of_all {ε α : Type} {check : α → Except ε PUnit} {items : List α}
    (each : ∀ item ∈ items, check item = .ok ()) : items.forM check = .ok () := by
  induction items with
  | nil => rfl
  | cons first rest ih =>
    change (check first >>= fun _ => rest.forM check) = .ok ()
    rw [each first List.mem_cons_self]
    exact ih fun item member => each item (List.mem_cons_of_mem _ member)

theorem ok_of_map {ε α β : Type} {result : Except ε α} {f : α → β} {value : β}
    (made : result.map f = .ok value) : ∃ own, result = .ok own ∧ f own = value := by
  cases result with
  | error fault => contradiction
  | ok own => exact ⟨own, rfl, Except.ok.inj made⟩

theorem ok_of_mapError {ε δ α : Type} {result : Except ε α} {f : ε → δ} {value : α}
    (made : result.mapError f = .ok value) : result = .ok value := by
  cases result with
  | error fault => contradiction
  | ok other => exact congrArg Except.ok (Except.ok.inj made)

/-- Each item of two lists that go together has a partner. -/
theorem exists_of_mem_left {α β : Type} {R : α → β → Prop} {items : List α} {results : List β}
    (together : List.Forall₂ R items results) {item : α} (member : item ∈ items) :
    ∃ result ∈ results, R item result := by
  induction together with
  | nil => exact absurd member List.not_mem_nil
  | cons first rest ih =>
    rcases List.mem_cons.mp member with rfl | later
    · exact ⟨_, List.mem_cons_self, first⟩
    · obtain ⟨result, inside, same⟩ := ih later
      exact ⟨result, List.mem_cons_of_mem _ inside, same⟩

section Faults

variable {ε α β : Type} {f : α → Except ε β}

theorem forall₂_of_mapM {items : List α} {results : List β} (made : items.mapM f = .ok results) :
    List.Forall₂ (fun item result => f item = .ok result) items results := by
  induction items generalizing results with
  | nil =>
    obtain rfl : [] = results := Except.ok.inj made
    exact .nil
  | cons item rest ih =>
    rw [List.mapM_cons] at made
    obtain ⟨result, first, made⟩ := ok_of_bind made
    obtain ⟨more, others, made⟩ := ok_of_bind made
    obtain rfl : result :: more = results := Except.ok.inj made
    exact .cons first (ih others)

theorem mapM_of_forall₂ {items : List α} {results : List β}
    (each : List.Forall₂ (fun item result => f item = .ok result) items results) :
    items.mapM f = .ok results := by
  induction each with
  | nil => rfl
  | cons first rest ih =>
    rw [List.mapM_cons, first, ih]
    rfl

theorem exists_mapM_iff {items : List α} :
    (∃ results, items.mapM f = .ok results) ↔ ∀ item ∈ items, ∃ result, f item = .ok result := by
  induction items with
  | nil => exact ⟨fun _ item member => absurd member List.not_mem_nil, fun _ => ⟨[], rfl⟩⟩
  | cons item rest ih =>
    rw [List.forall_mem_cons, ← ih]
    constructor
    · rintro ⟨results, made⟩
      cases forall₂_of_mapM made with
      | cons first others => exact ⟨⟨_, first⟩, ⟨_, mapM_of_forall₂ others⟩⟩
    · rintro ⟨⟨result, first⟩, results, others⟩
      exact ⟨result :: results, mapM_of_forall₂ (.cons first (forall₂_of_mapM others))⟩

/-- What comes after the first failure does not count. -/
theorem mapM_of_fault {earlier later : List α} {item : α} {fault : ε}
    (each : ∀ item ∈ earlier, ∃ result, f item = .ok result) (failed : f item = .error fault) :
    (earlier ++ item :: later).mapM f = .error fault := by
  induction earlier with
  | nil =>
    rw [List.nil_append, List.mapM_cons, failed]
    rfl
  | cons first rest ih =>
    obtain ⟨result, isResult⟩ := each first List.mem_cons_self
    rw [List.cons_append, List.mapM_cons, isResult,
      ih fun item member => each item (List.mem_cons_of_mem _ member)]
    rfl

/-- Where a result of some computations comes from. -/
theorem exists_of_mem_results {items : List α} {results : List β}
    (made : items.mapM f = .ok results) {result : β} (member : result ∈ results) :
    ∃ item ∈ items, f item = .ok result := by
  induction forall₂_of_mapM made with
  | nil => exact absurd member List.not_mem_nil
  | cons first rest ih =>
    rcases List.mem_cons.mp member with rfl | later
    · exact ⟨_, List.mem_cons_self, first⟩
    · obtain ⟨item, inside, same⟩ := ih (mapM_of_forall₂ rest) later
      exact ⟨item, List.mem_cons_of_mem _ inside, same⟩

end Faults

theorem mem_results_of_mem {α β : Type} {f : α → Option β} {items : List α} {results : List β}
    (made : items.mapM f = some results) {item : α} (member : item ∈ items) {result : β}
    (own : f item = some result) : result ∈ results := by
  induction items generalizing results with
  | nil => exact absurd member List.not_mem_nil
  | cons head rest ih =>
    rw [List.mapM_cons] at made
    obtain ⟨first, isFirst, made⟩ := Option.bind_eq_some_iff.mp made
    obtain ⟨others, more, made⟩ := Option.bind_eq_some_iff.mp made
    obtain rfl : first :: others = results := Option.some.inj made
    rcases List.mem_cons.mp member with rfl | later
    · obtain rfl : first = result := Option.some.inj (isFirst.symm.trans own)
      exact List.mem_cons_self
    · exact List.mem_cons_of_mem _ (ih more later)

theorem exists_of_mem_mapM {α β : Type} {f : α → Option β} {items : List α} {results : List β}
    (made : items.mapM f = some results) {result : β} (member : result ∈ results) :
    ∃ item ∈ items, f item = some result := by
  induction items generalizing results with
  | nil =>
    obtain rfl : [] = results := Option.some.inj made
    exact absurd member List.not_mem_nil
  | cons head rest ih =>
    rw [List.mapM_cons] at made
    obtain ⟨first, isFirst, made⟩ := Option.bind_eq_some_iff.mp made
    obtain ⟨others, more, made⟩ := Option.bind_eq_some_iff.mp made
    obtain rfl : first :: others = results := Option.some.inj made
    rcases List.mem_cons.mp member with rfl | later
    · exact ⟨head, List.mem_cons_self, isFirst⟩
    · obtain ⟨item, inside, own⟩ := ih more later
      exact ⟨item, List.mem_cons_of_mem _ inside, own⟩

/-- What comes back one by one comes back as a whole. -/
theorem mapM_map_of_mem {α β : Type} {f : β → Option α} {g : α → β} {items : List α}
    (back : ∀ item ∈ items, f (g item) = some item) : (items.map g).mapM f = some items := by
  induction items with
  | nil => rfl
  | cons head rest ih =>
    rw [List.map_cons, List.mapM_cons, back head List.mem_cons_self,
      ih fun item member => back item (List.mem_cons_of_mem _ member)]
    rfl

theorem exists_mapM_some_iff {α β : Type} {f : α → Option β} {items : List α} :
    (∃ results, items.mapM f = some results) ↔ ∀ item ∈ items, ∃ result, f item = some result := by
  induction items with
  | nil => exact ⟨fun _ item member => absurd member List.not_mem_nil, fun _ => ⟨[], rfl⟩⟩
  | cons item rest ih =>
    rw [List.forall_mem_cons, ← ih, List.mapM_cons]
    constructor
    · rintro ⟨results, made⟩
      obtain ⟨result, first, made⟩ := Option.bind_eq_some_iff.mp made
      obtain ⟨others, more, -⟩ := Option.bind_eq_some_iff.mp made
      exact ⟨⟨result, first⟩, others, more⟩
    · rintro ⟨⟨result, first⟩, others, more⟩
      rw [first, more]
      exact ⟨result :: others, rfl⟩

/-- An item is the first one, or comes after it. -/
theorem place_of_split {α : Type} {first item : α} {rest earlier later : List α}
    (split : first :: rest = earlier ++ item :: later) :
    (earlier = [] ∧ item = first ∧ later = rest) ∨
      ∃ before, earlier = first :: before ∧ rest = before ++ item :: later := by
  obtain ⟨rfl, same⟩ | ⟨before, rfl, same⟩ := List.cons_eq_append_iff.mp split
  · exact .inl ⟨rfl, List.cons.inj same⟩
  · exact .inr ⟨before, rfl, same⟩

/-- An item is the last one, or comes before it. -/
theorem place_of_concat {α : Type} {items earlier later : List α} {last item : α}
    (split : items ++ [last] = earlier ++ item :: later) :
    (earlier = items ∧ item = last ∧ later = []) ∨
      ∃ behind, later = behind ++ [last] ∧ items = earlier ++ item :: behind := by
  rcases List.eq_nil_or_concat later with rfl | ⟨behind, end', rfl⟩
  · obtain ⟨same, single⟩ := List.append_inj' split rfl
    exact .inl ⟨same.symm, (List.singleton_inj.1 single).symm, rfl⟩
  · rw [List.concat_eq_append, ← List.cons_append, ← List.append_assoc] at split
    obtain ⟨same, single⟩ := List.append_inj' split rfl
    obtain rfl := List.singleton_inj.1 single
    exact .inr ⟨behind, List.concat_eq_append, same⟩

theorem place_of_single {α : Type} {first item : α} {earlier later : List α}
    (split : [first] = earlier ++ item :: later) : earlier = [] ∧ item = first ∧ later = [] := by
  rcases place_of_split split with only | ⟨before, -, same⟩
  · exact only
  · cases before <;> contradiction

end LoadTest
