/-
**The submetrics of a run, each once.**

The recorder sorts the selectors that ask for tags and drops those that follow their equal. The
order of selectors is a linear one, so equal selectors stand together and each submetric is kept
once, however often and in which order it was asked for.

* `Selector.mem_submetricsOf`: no submetric is lost;
* `Selector.nodup_submetricsOf`: none is kept twice.
-/

import LoadTest.Recorder.Basic

namespace LoadTest.Selector

/-! ### The order of selectors -/

theorem tagLE_total (first second : String × String) :
    (tagLE first second || tagLE second first) = true := by
  unfold tagLE
  grind

theorem tagLE_trans {first second third : String × String} (low : tagLE first second = true)
    (high : tagLE second third = true) : tagLE first third = true := by
  unfold tagLE at *
  grind

theorem tagLE_antisymm {first second : String × String} (low : tagLE first second = true)
    (high : tagLE second first = true) : first = second := by
  unfold tagLE at *
  grind

theorem tagsLE_total (first second : List (String × String)) :
    (tagsLE first second || tagsLE second first) = true := by
  induction first generalizing second with
  | nil => rfl
  | cons tag rest ih =>
    cases second with
    | nil => rfl
    | cons other others =>
      unfold tagsLE
      by_cases same : tag = other
      · rw [if_pos same, if_pos same.symm]
        exact ih others
      · rw [if_neg same, if_neg (Ne.symm same)]
        exact tagLE_total tag other

theorem tagsLE_antisymm {first second : List (String × String)} (low : tagsLE first second = true)
    (high : tagsLE second first = true) : first = second := by
  induction first generalizing second with
  | nil =>
    cases second with
    | nil => rfl
    | cons _ _ => contradiction
  | cons tag rest ih =>
    cases second with
    | nil => contradiction
    | cons other others =>
      unfold tagsLE at low high
      by_cases same : tag = other
      · rw [if_pos same] at low
        rw [if_pos same.symm] at high
        rw [same, ih low high]
      · rw [if_neg same] at low
        rw [if_neg (Ne.symm same)] at high
        exact absurd (tagLE_antisymm low high) same

theorem tagsLE_trans {first second third : List (String × String)}
    (low : tagsLE first second = true) (high : tagsLE second third = true) :
    tagsLE first third = true := by
  induction first generalizing second third with
  | nil => rfl
  | cons tag rest ih =>
    cases second with
    | nil => contradiction
    | cons other others =>
      cases third with
      | nil => contradiction
      | cons last more =>
        unfold tagsLE at low high ⊢
        by_cases same : tag = other
        · rw [if_pos same] at low
          subst same
          by_cases next : tag = last
          · rw [if_pos next] at high ⊢
            exact ih low high
          · rw [if_neg next] at high ⊢
            exact high
        · rw [if_neg same] at low
          by_cases next : other = last
          · rw [← next, if_neg same]
            exact low
          · rw [if_neg next] at high
            by_cases back : tag = last
            · subst back
              exact absurd (tagLE_antisymm low high) same
            · rw [if_neg back]
              exact tagLE_trans low high

theorem sortLE_total (first second : Selector) :
    (sortLE first second || sortLE second first) = true := by
  have tags := tagsLE_total first.tags second.tags
  unfold sortLE
  grind

theorem sortLE_trans (first second third : Selector) (low : sortLE first second = true)
    (high : sortLE second third = true) : sortLE first third = true := by
  have tags := @tagsLE_trans first.tags second.tags third.tags
  unfold sortLE at *
  grind

theorem sortLE_antisymm {first second : Selector} (low : sortLE first second = true)
    (high : sortLE second first = true) : first = second := by
  obtain ⟨name, tags⟩ := first
  obtain ⟨otherName, otherTags⟩ := second
  have sameTags := @tagsLE_antisymm tags otherTags
  unfold sortLE at low high
  grind

/-! ### Dropping repetitions -/

section Repetitions

variable {α : Type} [BEq α] [LawfulBEq α]

/-- What is left of a sorted list when repetitions are dropped, behind what was kept before. -/
theorem loop_eraseReps {le : α → α → Bool} (antisymm : ∀ a b, le a b → le b a → a = b) (first : α)
    (rest kept : List α) (sorted : (first :: rest).Pairwise fun a b => le a b) :
    ∃ left, List.eraseRepsBy.loop (· == ·) first rest kept = kept.reverse ++ left ∧ left.Nodup ∧
      ∀ item, item ∈ left ↔ item ∈ first :: rest := by
  induction rest generalizing first kept with
  | nil =>
    refine ⟨[first], ?_, List.pairwise_singleton _ _, fun item => Iff.rfl⟩
    exact List.reverse_cons
  | cons next rest ih =>
    obtain ⟨above, tail⟩ := List.pairwise_cons.mp sorted
    unfold List.eraseRepsBy.loop
    by_cases same : first = next
    · subst same
      obtain ⟨left, isLeft, apart, members⟩ := ih first kept tail
      refine ⟨left, ?_, apart, fun item => ?_⟩
      · rw [beq_self_eq_true]
        exact isLeft
      · rw [members item, List.mem_cons, List.mem_cons, List.mem_cons, or_self_left]
    · obtain ⟨left, isLeft, apart, members⟩ := ih next (first :: kept) tail
      refine ⟨first :: left, ?_, ?_, fun item => ?_⟩
      · rw [beq_eq_false_iff_ne.mpr same]
        dsimp only
        rw [isLeft, List.reverse_cons, List.append_assoc, List.singleton_append]
      · -- What comes later is above the next one, so it cannot be the first again.
        refine List.nodup_cons.mpr ⟨fun again => ?_, apart⟩
        rcases List.mem_cons.mp ((members first).mp again) with here | later
        · exact same here
        · have low := above next List.mem_cons_self
          have high := (List.pairwise_cons.mp tail).1 first later
          exact same (antisymm first next low high)
      · rw [List.mem_cons, members item, List.mem_cons (b := first)]

theorem eraseReps_sorted {le : α → α → Bool} (antisymm : ∀ a b, le a b → le b a → a = b)
    {items : List α} (sorted : items.Pairwise fun a b => le a b) :
    items.eraseReps.Nodup ∧ ∀ item, item ∈ items.eraseReps ↔ item ∈ items := by
  cases items with
  | nil => exact ⟨List.nodup_nil, fun item => Iff.rfl⟩
  | cons first rest =>
    obtain ⟨left, isLeft, apart, members⟩ := loop_eraseReps antisymm first rest [] sorted
    have all : (first :: rest).eraseReps = left := isLeft
    rw [all]
    exact ⟨apart, members⟩

end Repetitions

theorem submetricsOf_spec (selectors : List Selector) : (submetricsOf selectors).Nodup ∧
    ∀ selector, selector ∈ submetricsOf selectors ↔
      selector ∈ (selectors.filter isSubmetric).mergeSort sortLE :=
  eraseReps_sorted (fun _ _ low high => sortLE_antisymm low high)
    (List.pairwise_mergeSort sortLE_trans sortLE_total _)

/-- **Each submetric that was asked for is kept.** -/
theorem mem_submetricsOf {selectors : List Selector} {selector : Selector} :
    selector ∈ submetricsOf selectors ↔ selector ∈ selectors ∧ selector.isSubmetric = true := by
  rw [(submetricsOf_spec selectors).2 selector, List.mem_mergeSort, List.mem_filter]

/-- **No submetric is kept twice.** -/
theorem nodup_submetricsOf (selectors : List Selector) : (submetricsOf selectors).Nodup :=
  (submetricsOf_spec selectors).1

end LoadTest.Selector
