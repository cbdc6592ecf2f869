/-
**Percentiles, exactly.**

Read over the rationals, the percentiles of some values are the heights of a line that is drawn
through the values in their order, one step apart. The line never falls, because the values do not,
so percentiles grow with their rank from the least value to the greatest; at every step the line has
the height of one of the values.

* `interpolate`, `interpolate_mono`: the line through given heights never falls if they do not;
* `lineThrough`, `percentile_eq`: a percentile is a height of the line through the values;
* `Aggregate.Draws`: what the percentiles of some values are over all ranks;
* `Sink.percentiles_draw`: they are this for every trend, however its values came.
-/

import Mathlib.Algebra.Order.Floor.Semiring
import Mathlib.Data.Rat.Floor
import Mathlib.Tactic.Linarith
import LoadTest.Proofs.Float.Order
import LoadTest.Proofs.Metric.Recompute

namespace LoadTest

/-! ### A line through given heights -/

/-- The line through given heights, one step apart. -/
def interpolate (height : ℕ → ℚ) (place : ℚ) : ℚ :=
  height ⌊place⌋₊ + (height ⌈place⌉₊ - height ⌊place⌋₊) * (place - ⌊place⌋₊)

/-- Heights that do not fall up to the last one. -/
def Rising (height : ℕ → ℚ) (last : ℕ) : Prop :=
  ∀ low high, low ≤ high → high ≤ last → height low ≤ height high

section Line

variable {height : ℕ → ℚ} {last : ℕ} {place other : ℚ}

/-- At every step the line has the given height. -/
theorem interpolate_natCast (height : ℕ → ℚ) (step : ℕ) :
    interpolate height step = height step := by
  unfold interpolate
  rw [Nat.floor_natCast, Nat.ceil_natCast, sub_self, zero_mul, add_zero]

/-- Between two steps the line is between their heights. -/
theorem interpolate_between (rising : Rising height last) (nonneg : 0 ≤ place)
    (inside : place ≤ last) :
    height ⌊place⌋₊ ≤ interpolate height place ∧ interpolate height place ≤ height ⌈place⌉₊ := by
  have least : 0 ≤ place - ⌊place⌋₊ := sub_nonneg.mpr (Nat.floor_le nonneg)
  have most : place - ⌊place⌋₊ ≤ 1 := by linarith [Nat.lt_floor_add_one place]
  have rise : 0 ≤ height ⌈place⌉₊ - height ⌊place⌋₊ :=
    sub_nonneg.mpr (rising _ _ (Nat.floor_le_ceil place) (Nat.ceil_le.mpr inside))
  unfold interpolate
  constructor
  · linarith [mul_nonneg rise least]
  · linarith [mul_le_of_le_one_right rise most]

/-- **A line through heights that do not fall never falls.** -/
theorem interpolate_mono (rising : Rising height last) (nonneg : 0 ≤ place) (before : place ≤ other)
    (inside : other ≤ last) : interpolate height place ≤ interpolate height other := by
  have high := (interpolate_between rising nonneg (before.trans inside)).2
  have low := (interpolate_between rising (nonneg.trans before) inside).1
  rcases le_or_gt ⌈place⌉₊ ⌊other⌋₊ with apart | near
  · -- A step lies between the two places.
    have reached : ⌊other⌋₊ ≤ last := Nat.floor_le_of_le inside
    exact (high.trans (rising _ _ apart reached)).trans low
  · -- Both places are between the same two steps.
    have lower : ⌊place⌋₊ = ⌊other⌋₊ := by
      have first := Nat.floor_mono before
      have second := Nat.ceil_le_floor_add_one place
      omega
    have upper : ⌈place⌉₊ = ⌈other⌉₊ := by
      have short : other ≤ ⌈place⌉₊ := ((Nat.floor_lt (nonneg.trans before)).mp near).le
      exact le_antisymm (Nat.ceil_mono before) (Nat.ceil_le.mpr short)
    have rise : 0 ≤ height ⌈other⌉₊ - height ⌊other⌋₊ :=
      sub_nonneg.mpr (rising _ _ (Nat.floor_le_ceil other) (Nat.ceil_le.mpr inside))
    unfold interpolate
    rw [lower, upper]
    have climbed := mul_le_mul_of_nonneg_left (sub_le_sub_right before (⌊other⌋₊ : ℚ)) rise
    linarith

end Line

/-! ### The place of a rank -/

/-- The place of a percentile of values with a last index. -/
def placeOf (last : ℕ) (rank : ℚ) : ℚ :=
  clamp (rank / Scalar.ofNat 100) (Scalar.ofNat 0) (Scalar.ofNat 1) * Scalar.ofNat last

section Places

variable {last : ℕ} {rank other : ℚ}

theorem placeOf_eq (last : ℕ) (rank : ℚ) :
    placeOf last rank = max 0 (min (rank / 100) 1) * last := by
  have lt_iff (x y : ℚ) : Scalar.lt x y = true ↔ x < y := decide_eq_true_iff
  have zero : (Scalar.ofNat 0 : ℚ) = 0 := Nat.cast_zero
  have one : (Scalar.ofNat 1 : ℚ) = 1 := Nat.cast_one
  show clamp (rank / 100) (Scalar.ofNat 0) (Scalar.ofNat 1) * (last : ℚ) = _
  congr 1
  unfold clamp
  rw [zero, one]
  simp only [lt_iff]
  split_ifs with below above
  · rw [min_eq_left (below.le.trans zero_le_one), max_eq_left below.le]
  · rw [min_eq_right above.le, max_eq_right zero_le_one]
  · rw [min_eq_left (not_lt.mp above), max_eq_right (not_lt.mp below)]

theorem placeOf_nonneg : 0 ≤ placeOf last rank := by
  rw [placeOf_eq]
  exact mul_nonneg (le_max_left _ _) (Nat.cast_nonneg last)

theorem placeOf_le : placeOf last rank ≤ last := by
  rw [placeOf_eq]
  exact mul_le_of_le_one_left (Nat.cast_nonneg last) (max_le zero_le_one (min_le_right _ _))

theorem placeOf_mono (before : rank ≤ other) : placeOf last rank ≤ placeOf last other := by
  rw [placeOf_eq, placeOf_eq]
  gcongr

theorem placeOf_low (low : rank ≤ 0) : placeOf last rank = (0 : ℕ) := by
  have part : rank / 100 ≤ 0 := by linarith
  rw [placeOf_eq, min_eq_left (part.trans zero_le_one), max_eq_left part, zero_mul, Nat.cast_zero]

theorem placeOf_high (high : 100 ≤ rank) : placeOf last rank = last := by
  have part : 1 ≤ rank / 100 := by linarith
  rw [placeOf_eq, min_eq_right part, max_eq_right zero_le_one, one_mul]

/-- The ranks that stand for a step. -/
theorem placeOf_step {step : ℕ} (inside : step ≤ last) :
    placeOf last (100 * step / last) = step := by
  rcases Nat.eq_zero_or_pos last with rfl | some
  · obtain rfl := Nat.le_zero.mp inside
    rw [placeOf_eq, Nat.cast_zero, mul_zero]
  · have positive : (0 : ℚ) < last := by exact_mod_cast some
    have part : 100 * (step : ℚ) / last / 100 = step / last := by ring
    have least : 0 ≤ (step : ℚ) / last := by positivity
    have most : (step : ℚ) / last ≤ 1 := (div_le_one positive).mpr (by exact_mod_cast inside)
    rw [placeOf_eq, part, min_eq_left most, max_eq_right least, div_mul_cancel₀ _ positive.ne']

end Places

/-! ### Percentiles -/

theorem Scalar.floor_rat (x : ℚ) : Scalar.floor x = ⌊x⌋₊ := Int.floor_toNat x

theorem Scalar.ceil_rat (x : ℚ) : Scalar.ceil x = ⌈x⌉₊ := by
  rw [← Int.ceil_toNat]
  exact congrArg Int.toNat (Rat.ceil_eq_neg_floor_neg x)

/-- The value at an index. -/
def heightOf (values : List ℚ) (index : ℕ) : ℚ := values.getD index 0

/-- The height of the line through some values at a rank. -/
def lineThrough (values : List ℚ) (rank : ℚ) : ℚ :=
  interpolate (heightOf values) (placeOf (values.length - 1) rank)

section Line

variable {values : List ℚ} {index : ℕ} {rank : ℚ}

theorem heightOf_getElem (inside : index < values.length) :
    heightOf values index = values[index] := by
  unfold heightOf
  rw [List.getD_eq_getElem?_getD, List.getElem?_eq_getElem inside, Option.getD_some]

theorem getElem?_heightOf (inside : index < values.length) :
    values[index]? = some (heightOf values index) := by
  rw [heightOf_getElem inside, List.getElem?_eq_getElem]

theorem heightOf_mem (inside : index < values.length) : heightOf values index ∈ values := by
  rw [heightOf_getElem inside]
  exact List.getElem_mem inside

/-- **Both neighbours of a percentile are among the values.** -/
theorem neighbours_lt (some : values ≠ []) (rank : ℚ) :
    ⌊placeOf (values.length - 1) rank⌋₊ < values.length ∧
      ⌈placeOf (values.length - 1) rank⌉₊ < values.length := by
  have positive : 0 < values.length := List.length_pos_iff.mpr some
  have top : ⌈placeOf (values.length - 1) rank⌉₊ ≤ values.length - 1 := Nat.ceil_le.mpr placeOf_le
  have bottom := Nat.floor_le_ceil (placeOf (values.length - 1) rank)
  omega

/-- **A percentile is a height of the line through the values.** -/
theorem percentile_eq (some : values ≠ []) (rank : ℚ) :
    percentile values rank = Option.some (lineThrough values rank) := by
  obtain ⟨lower, upper⟩ := neighbours_lt some rank
  unfold lineThrough
  match values with
  | [] => contradiction
  | [value] =>
    have place : placeOf ([value].length - 1) rank = (0 : ℕ) := by
      rw [placeOf_eq]
      exact mul_zero _
    rw [place, interpolate_natCast]
    rfl
  | first :: second :: rest =>
    have place : clamp (rank / Scalar.ofNat 100) (Scalar.ofNat 0) (Scalar.ofNat 1) *
        Scalar.ofNat ((first :: second :: rest).length - 1) =
        placeOf ((first :: second :: rest).length - 1) rank := rfl
    unfold percentile
    dsimp only
    rw [place, Scalar.floor_rat, Scalar.ceil_rat, getElem?_heightOf lower, getElem?_heightOf upper]
    rfl

theorem lineThrough_low (low : rank ≤ 0) : lineThrough values rank = heightOf values 0 := by
  unfold lineThrough
  rw [placeOf_low low, interpolate_natCast]

theorem lineThrough_high (high : 100 ≤ rank) :
    lineThrough values rank = heightOf values (values.length - 1) := by
  unfold lineThrough
  rw [placeOf_high high, interpolate_natCast]

theorem lineThrough_step {step : ℕ} (inside : step < values.length) :
    lineThrough values (100 * step / ((values.length : ℚ) - 1)) = values[step] := by
  have last : (values.length : ℚ) - 1 = (values.length - 1 : ℕ) :=
    (Nat.cast_pred (Nat.zero_lt_of_lt inside)).symm
  unfold lineThrough
  rw [last, placeOf_step (Nat.le_sub_one_of_lt inside), interpolate_natCast,
    heightOf_getElem inside]

end Line

/-! ### Values in their order -/

section Sorted

variable {values ordered : List ℚ}

/-- Values in ascending order are the sorted ones. -/
theorem sort_eq (same : ordered.Perm values) (ascending : ordered.Pairwise (· ≤ ·)) :
    Scalar.sort values = ordered := by
  rw [← Rounding.sort_congr_exact same]
  exact List.mergeSort_of_pairwise (ascending.imp decide_eq_true)

theorem perm_sort (values : List ℚ) : (Scalar.sort values).Perm values := List.mergeSort_perm ..

theorem ascending_sort (values : List ℚ) : (Scalar.sort values).Pairwise (· ≤ ·) :=
  (List.pairwise_mergeSort Rounding.sortLE_trans_exact Rounding.sortLE_total_exact values).imp
    of_decide_eq_true

theorem rising_heightOf (ascending : ordered.Pairwise (· ≤ ·)) :
    Rising (heightOf ordered) (ordered.length - 1) := by
  intro low high order inside
  rcases order.eq_or_lt with rfl | before
  · exact le_rfl
  have reached : high < ordered.length := by omega
  rw [heightOf_getElem (before.trans reached), heightOf_getElem reached]
  exact List.pairwise_iff_getElem.mp ascending low high _ _ before

/-- Every value is between the first and the last. -/
theorem heightOf_bounds (ascending : ordered.Pairwise (· ≤ ·)) {value : ℚ} (mem : value ∈ ordered) :
    heightOf ordered 0 ≤ value ∧ value ≤ heightOf ordered (ordered.length - 1) := by
  obtain ⟨index, inside, rfl⟩ := List.getElem_of_mem mem
  have rising := rising_heightOf ascending
  rw [← heightOf_getElem inside]
  exact ⟨rising _ _ (Nat.zero_le _) (by omega), rising _ _ (by omega) le_rfl⟩

/-- **The line through ascending values never falls.** -/
theorem lineThrough_mono (ascending : ordered.Pairwise (· ≤ ·)) : Monotone (lineThrough ordered) :=
  fun _ _ before =>
    interpolate_mono (rising_heightOf ascending) placeOf_nonneg (placeOf_mono before) placeOf_le

/-- The line keeps between the first and the last value, which are its heights at ranks around
every other. -/
theorem lineThrough_between (ascending : ordered.Pairwise (· ≤ ·)) (rank : ℚ) :
    heightOf ordered 0 ≤ lineThrough ordered rank ∧
      lineThrough ordered rank ≤ heightOf ordered (ordered.length - 1) := by
  have climbs := lineThrough_mono ascending
  rw [← lineThrough_low (min_le_left 0 rank), ← lineThrough_high (le_max_left 100 rank)]
  exact ⟨climbs (min_le_right 0 rank), climbs (le_max_right 100 rank)⟩

end Sorted

/-! ### The percentiles of a trend -/

/-- What the percentiles of some values are over all ranks: a line from the least value to the
greatest. -/
structure Aggregate.Draws (aggregate : Aggregate ℚ) (values : List ℚ) (least greatest : ℚ)
    (line : ℚ → ℚ) : Prop where
  min : aggregate.min = some least
  max : aggregate.max = some greatest
  attained : least ∈ values ∧ greatest ∈ values
  bounds : ∀ value ∈ values, least ≤ value ∧ value ≤ greatest
  /-- both neighbours of a percentile are among the values -/
  inside : ∀ rank,
    Scalar.floor (placeOf (aggregate.values.length - 1) rank) < aggregate.values.length ∧
    Scalar.ceil (placeOf (aggregate.values.length - 1) rank) < aggregate.values.length
  percentile : ∀ rank, aggregate.percentile rank = some (line rank)
  between : ∀ rank, least ≤ line rank ∧ line rank ≤ greatest
  mono : Monotone line
  low : ∀ rank ≤ 0, line rank = least
  high : ∀ rank, 100 ≤ rank → line rank = greatest
  /-- the line goes through the values, whatever the way in which they are brought in order -/
  through : ∀ ordered : List ℚ, ordered.Perm values → ordered.Pairwise (· ≤ ·) →
    ∀ step (inside : step < ordered.length),
      line (100 * step / ((ordered.length : ℚ) - 1)) = ordered[step]

/-- **The percentiles of sorted values draw the line through them.** -/
theorem Aggregate.draws_sorted {values ordered : List ℚ} (some : values ≠ [])
    (same : ordered.Perm values) (ascending : ordered.Pairwise (· ≤ ·)) :
    Aggregate.Draws (.trend ordered) values (heightOf ordered 0)
      (heightOf ordered (ordered.length - 1)) (lineThrough ordered) := by
  have filled : ordered ≠ [] := by
    rintro rfl
    exact some same.symm.eq_nil
  have first : 0 < ordered.length := List.length_pos_iff.mpr filled
  have last : ordered.length - 1 < ordered.length := Nat.sub_one_lt first.ne'
  exact {
    min := by
      show ordered.head? = _
      rw [List.head?_eq_getElem?, getElem?_heightOf first]
    max := by
      show ordered.getLast? = _
      rw [List.getLast?_eq_getElem?, getElem?_heightOf last]
    attained := ⟨same.mem_iff.mp (heightOf_mem first), same.mem_iff.mp (heightOf_mem last)⟩
    bounds := fun value mem => heightOf_bounds ascending (same.mem_iff.mpr mem)
    inside := fun rank => by
      rw [Scalar.floor_rat, Scalar.ceil_rat]
      exact neighbours_lt filled rank
    percentile := percentile_eq filled
    between := lineThrough_between ascending
    mono := lineThrough_mono ascending
    low := fun rank => lineThrough_low
    high := fun rank => lineThrough_high
    through := fun other permuted increasing step inside => by
      -- There is only one way to bring the values in order.
      obtain rfl : ordered = other :=
        (sort_eq same ascending).symm.trans (sort_eq permuted increasing)
      exact lineThrough_step inside }

/-- What a trend kept of its values does not depend on the order in which they came. -/
theorem Sink.aggregate_trend_exact (recorded : List (Measured ℚ)) (elapsed : Duration) :
    (Sink.ofValues .trend recorded).aggregate elapsed =
      .trend (Scalar.sort (recorded.map Measured.toNumber)) := by
  unfold Sink.ofValues Sink.empty
  rw [Sink.foldl_push_trend, List.append_nil]
  exact congrArg Aggregate.trend (Rounding.sort_congr_exact (List.reverse_perm _))

/-- **The percentiles of a trend.** In exact arithmetic they draw a line from the least value to the
greatest, which never falls and goes through every value at its rank; every order in which the
values are recorded or given comes to the same percentiles. -/
theorem Sink.percentiles_draw {recorded : List (Measured ℚ)} (some : recorded ≠ [])
    (elapsed : Duration) :
    ∃ least greatest line,
      Aggregate.Draws ((Sink.ofValues .trend recorded).aggregate elapsed)
        (recorded.map Measured.toNumber) least greatest line ∧
      ∀ others : List (Measured ℚ), others.Perm recorded →
        (Sink.ofValues .trend others).aggregate elapsed =
          (Sink.ofValues .trend recorded).aggregate elapsed ∧
        Aggregate.ofValues .trend (others.map Measured.toNumber) elapsed =
          (Sink.ofValues .trend recorded).aggregate elapsed := by
  have filled : recorded.map Measured.toNumber ≠ [] := by rwa [Ne, List.map_eq_nil_iff]
  rw [Sink.aggregate_trend_exact]
  refine ⟨_, _, _, Aggregate.draws_sorted filled (perm_sort _) (ascending_sort _), ?_⟩
  intro others same
  have sorted :=
    congrArg Aggregate.trend (Rounding.sort_congr_exact (same.map Measured.toNumber))
  exact ⟨(Sink.aggregate_trend_exact others elapsed).trans sorted, sorted⟩

/-- A value that is there twice takes the first two steps of three. -/
theorem Sink.percentiles_draw_repeats :
    let recorded : List (Measured ℚ) := [.number 3, .number 1, .number 2, .number 1]
    let kept := (Sink.ofValues .trend recorded).aggregate .zero
    recorded ≠ [] ∧ kept.percentile (100 / 3) = some 1 ∧ kept.percentile 50 = some (3 / 2) ∧
      ∃ least greatest line,
        Aggregate.Draws kept (recorded.map Measured.toNumber) least greatest line ∧
        line (100 * (2 : ℕ) / ((4 : ℕ) - 1)) = 2 := by
  intro recorded kept
  have filled : recorded ≠ [] := List.cons_ne_nil _ _
  have sorted : kept = .trend [1, 1, 2, 3] := by
    have same : [1, 1, 2, 3].Perm (recorded.map Measured.toNumber) := by decide +kernel
    exact (Sink.aggregate_trend_exact recorded .zero).trans
      (congrArg Aggregate.trend (sort_eq same (by decide +kernel)))
  obtain ⟨least, greatest, line, draws, -⟩ := Sink.percentiles_draw filled .zero
  refine ⟨filled, ?_, ?_, least, greatest, line, draws, ?_⟩
  · rw [sorted]
    decide +kernel
  · rw [sorted]
    decide +kernel
  · exact draws.through [1, 1, 2, 3] (by decide +kernel) (by decide +kernel) 2 (by decide)

end LoadTest
