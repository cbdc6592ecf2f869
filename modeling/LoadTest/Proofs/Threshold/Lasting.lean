/-
**Verdicts that stand.**

A threshold that fails during a run is judged again at its end, on what was recorded before and
after. Its statistic may have come back over the bound by then: a rate falls with every success, and
a counter's total per second with the time alone. Some verdicts stand nevertheless: the kind of
metric has no such statistic, or no value came any more, or every further value takes the statistic
away from the bound, as with the number of samples, the least and the greatest, and with a total of
values none of which is negative.

* `Expression.recedes`: more values only take the statistic away from the bound;
* `Expression.Stands`: why a verdict stands;
* `Threshold.Judges`, `Threshold.judges_ofValues`: what a verdict says of the values;
* `Threshold.isPassed_of_stands`: a threshold with such a verdict does not pass later.
-/

import LoadTest.Proofs.Float.Sorted
import LoadTest.Proofs.Recorder.Growth
import LoadTest.Threshold.Verdict

namespace LoadTest

open Rounding

/-! ### The reasons -/

namespace Comparator

/-- Whether the comparison asks for a number below a bound. -/
def isBelow (comparator : Comparator) : Bool := comparator = lt || comparator = le

/-- Whether the comparison asks for a number above a bound. -/
def isAbove (comparator : Comparator) : Bool := comparator = gt || comparator = ge

end Comparator

namespace Expression

/-- Whether more values only take the statistic away from a bound that it misses. -/
def recedes (expression : Expression) (kind : MetricKind) : Bool :=
  match expression.statistic with
  | .count | .sum => expression.comparator.isBelow
  | .max => kind = .trend && expression.comparator.isBelow
  | .min => kind = .trend && expression.comparator.isAbove
  | _ => false

/-- **Why a verdict stands** that was passed on some values of a metric, when more come. (The values
of a counter are its steps, and its number of samples is the total.) -/
inductive Stands (expression : Expression) (kind : MetricKind) (more : List (Measured Float)) : Prop
  | inapplicable (none : expression.statistic.appliesTo kind = false)
  | untouched (nothing : more = [])
      (timeless : kind ≠ .counter ∨ expression.statistic ≠ .rate)
  | recedes (recedes : expression.recedes kind = true)
      (forward : kind = .counter ∨ expression.statistic = .sum →
        ∀ value ∈ more, Float.ofNat 0 ≤ value.toNumber)

end Expression

/-! ### Statistics of more values -/

theorem Measured.isFinite_toNumber {value : Measured Float}
    (recordable : value.isUnrecordable = false) : value.toNumber.isFinite = true := by
  cases value with
  | number value => exact (Bool.not_eq_false' ..).mp recordable
  | flag value =>
    cases value with
    | true => exact isFinite_iff.2 ⟨_, denotes_exact (n := 1) (by decide)⟩
    | false => exact isFinite_iff.2 ⟨_, denotes_exact (n := 0) (by decide)⟩

theorem Measured.Recordable.isFinite {values : List (Measured Float)}
    (recordable : Recordable values) :
    ∀ number ∈ values.map toNumber, number.isFinite = true := by
  intro number member
  obtain ⟨value, inside, rfl⟩ := List.mem_map.1 member
  exact isFinite_toNumber (recordable value inside)

namespace Statistic

variable {values more : List (Measured Float)} {kind : MetricKind} {elapsed later : Duration}
  {early late : Float}

/-- Only a counter's total per second depends on the time. -/
theorem recompute_timeless {statistic : Statistic} (timeless : kind ≠ .counter ∨ statistic ≠ .rate) :
    statistic.recompute kind values elapsed = statistic.recompute kind values later := by
  cases kind with
  | counter =>
    cases statistic with
    | rate => exact absurd rfl (timeless.resolve_left fun other => other rfl)
    | _ => rfl
  | rate | trend => cases statistic <;> rfl

/-- The number of samples grows. -/
theorem length_le (values more : List (Measured Float)) :
    Float.ofNat values.length ≤ Float.ofNat (values ++ more).length := by
  refine ofNat_le_ofNat ?_
  rw [List.length_append]
  exact Nat.le_add_right _ _

/-- **A total grows** if no step is negative. -/
theorem total_le (recordable : Measured.Recordable (values ++ more))
    (forward : ∀ value ∈ more, Float.ofNat 0 ≤ value.toNumber) :
    Measured.total values ≤ Measured.total (values ++ more) := by
  obtain ⟨old, new⟩ := List.forall_mem_append.1 recordable
  obtain ⟨k, number⟩ := exists_level_foldl (Measured.Recordable.isFinite old)
    (denotes_natCast (n := 0) (by decide)).level
  unfold Measured.total
  rw [List.map_append, List.foldl_append]
  exact le_foldl_add (Measured.Recordable.isFinite new) (List.forall_mem_map.2 forward) number

/-- For a counter the number of samples is the total, and for a rate the total is that number. -/
theorem recompute_additive {statistic : Statistic}
    (additive : statistic = .count ∨ statistic = .sum) :
    statistic.recompute .counter values elapsed = some (Measured.total values) ∧
      statistic.recompute .rate values elapsed = some (Float.ofNat values.length) := by
  rcases additive with rfl | rfl <;> exact ⟨rfl, rfl⟩

/-- **The number of samples and the total grow.** -/
theorem additive_grows {statistic : Statistic} (additive : statistic = .count ∨ statistic = .sum)
    (recordable : Measured.Recordable (values ++ more))
    (forward : kind = .counter ∨ statistic = .sum →
      ∀ value ∈ more, Float.ofNat 0 ≤ value.toNumber)
    (before : statistic.recompute kind values elapsed = some early)
    (after : statistic.recompute kind (values ++ more) later = some late) : early ≤ late := by
  cases kind with
  | counter =>
    rw [(recompute_additive additive).1] at before after
    obtain rfl := Option.some.inj before
    obtain rfl := Option.some.inj after
    exact total_le recordable (forward (.inl rfl))
  | rate =>
    rw [(recompute_additive additive).2] at before after
    obtain rfl := Option.some.inj before
    obtain rfl := Option.some.inj after
    exact length_le values more
  | trend =>
    rcases additive with rfl | rfl
    · obtain rfl := Option.some.inj before
      obtain rfl := Option.some.inj after
      exact length_le values more
    · obtain rfl := Option.some.inj before
      obtain rfl := Option.some.inj after
      have finite := recordable.isFinite
      rw [List.map_append] at finite ⊢
      exact sum_sort_le finite (List.forall_mem_map.2 (forward (.inr rfl)))

/-- **The greatest value grows.** -/
theorem max_grows (recordable : Measured.Recordable (values ++ more))
    (before : max.recompute .trend values elapsed = some early)
    (after : max.recompute .trend (values ++ more) later = some late) : early ≤ late := by
  refine le_greatest recordable.isFinite after ?_
  rw [List.map_append]
  exact List.mem_append_left _ (mem_sort.1 (List.mem_of_getLast? before))

/-- **The least value falls.** -/
theorem min_falls (recordable : Measured.Recordable (values ++ more))
    (before : min.recompute .trend values elapsed = some early)
    (after : min.recompute .trend (values ++ more) later = some late) : late ≤ early := by
  refine least_le recordable.isFinite after ?_
  rw [List.map_append]
  exact List.mem_append_left _ (mem_sort.1 (List.mem_of_head? before))

end Statistic

namespace Comparator

variable {comparator : Comparator} {x y bound : Float}

theorem compare_of_isBelow (below : comparator.isBelow = true) (order : x ≤ y)
    (met : comparator.compare y bound = true) : comparator.compare x bound = true := by
  cases comparator with
  | lt => exact decide_eq_true ((below_of_le order).1 (of_decide_eq_true met))
  | le => exact decide_eq_true ((below_of_le order).2 (of_decide_eq_true met))
  | gt | ge | eq | ne => contradiction

theorem compare_of_isAbove (above : comparator.isAbove = true) (order : x ≤ y)
    (met : comparator.compare x bound = true) : comparator.compare y bound = true := by
  cases comparator with
  | gt => exact decide_eq_true ((above_of_le order).1 (of_decide_eq_true met))
  | ge => exact decide_eq_true ((above_of_le order).2 (of_decide_eq_true met))
  | lt | le | eq | ne => contradiction

end Comparator

/-- **What is met with more values was met without them**, if those only take the statistic away from
the bound. -/
theorem Expression.holds_of_recedes {expression : Expression} {values more : List (Measured Float)}
    {kind : MetricKind} {elapsed later : Duration} {early late : Float}
    (recedes : expression.recedes kind = true)
    (forward : kind = .counter ∨ expression.statistic = .sum →
      ∀ value ∈ more, Float.ofNat 0 ≤ value.toNumber)
    (recordable : Measured.Recordable (values ++ more))
    (before : expression.statistic.recompute kind values elapsed = some early)
    (after : expression.statistic.recompute kind (values ++ more) later = some late)
    (met : expression.holds late = true) : expression.holds early = true := by
  unfold Expression.recedes at recedes
  cases asked : expression.statistic with
  | count =>
    rw [asked] at recedes forward before after
    have order := Statistic.additive_grows (.inl rfl) recordable forward before after
    exact Comparator.compare_of_isBelow recedes order met
  | sum =>
    rw [asked] at recedes forward before after
    have order := Statistic.additive_grows (.inr rfl) recordable forward before after
    exact Comparator.compare_of_isBelow recedes order met
  | max =>
    rw [asked] at recedes before after
    obtain ⟨trend, below⟩ := Bool.and_eq_true_iff.mp recedes
    obtain rfl := of_decide_eq_true trend
    exact Comparator.compare_of_isBelow below (Statistic.max_grows recordable before after) met
  | min =>
    rw [asked] at recedes before after
    obtain ⟨trend, above⟩ := Bool.and_eq_true_iff.mp recedes
    obtain rfl := of_decide_eq_true trend
    exact Comparator.compare_of_isAbove above (Statistic.min_falls recordable before after) met
  | rate | percentile | avg | med =>
    rw [asked] at recedes
    contradiction

/-! ### Verdicts -/

namespace Threshold

variable {threshold : Threshold} {values more : List (Measured Float)} {kind : MetricKind}
  {elapsed later : Duration}

/-- **All that a verdict on some values can be.** -/
inductive Judges (threshold : Threshold) (kind : MetricKind) (values : List (Measured Float))
    (elapsed : Duration) : Outcome → Prop
  | inapplicable (none : threshold.expression.statistic.appliesTo kind = false) :
    Judges threshold kind values elapsed
      (.failed .none (some (StatisticGap.notApplicable kind).message))
  | undecided : Judges threshold kind values elapsed threshold.unobserved
  | met (observed : Float) (applies : threshold.expression.statistic.appliesTo kind = true)
      (found : threshold.expression.statistic.recompute kind values elapsed = some observed)
      (holds : threshold.expression.holds observed = true) :
    Judges threshold kind values elapsed (.passed observed)
  | missed (observed : Float)
      (found : threshold.expression.statistic.recompute kind values elapsed = some observed)
      (fails : threshold.expression.holds observed = false) :
    Judges threshold kind values elapsed (.failed (some observed) .none)

theorem judges_ofValues (threshold : Threshold) (kind : MetricKind) (values : List (Measured Float))
    (elapsed : Duration) : Judges threshold kind values elapsed
      (threshold.outcome (some ((Sink.ofValues kind values).aggregate elapsed))) := by
  unfold outcome
  dsimp only
  rw [statistic_ofValues]
  by_cases none : threshold.expression.statistic.appliesTo kind = false
  · rw [if_pos none]
    exact .inapplicable none
  rw [if_neg none]
  by_cases undecided : (values.isEmpty ||
      threshold.expression.statistic.isTimeless kind elapsed) = true
  · rw [if_pos undecided]
    exact .undecided
  rw [if_neg undecided]
  cases found : threshold.expression.statistic.recompute kind values elapsed with
  | none => exact .undecided
  | some observed =>
    dsimp only
    by_cases holds : threshold.expression.holds observed = true
    · rw [if_pos holds]
      exact .met observed (Bool.eq_true_of_not_eq_false none) found holds
    · rw [if_neg holds]
      exact .missed observed found (Bool.eq_false_of_not_eq_true holds)

/-- **A threshold that failed does not pass later if its verdict stands.** -/
theorem isPassed_of_stands (stands : threshold.expression.Stands kind more)
    (recordable : Measured.Recordable (values ++ more))
    (failed : (threshold.outcome (some ((Sink.ofValues kind values).aggregate elapsed))).isFailed =
      true) :
    (threshold.outcome (some ((Sink.ofValues kind (values ++ more)).aggregate later))).isPassed =
      false := by
  have before := judges_ofValues threshold kind values elapsed
  have after := judges_ofValues threshold kind (values ++ more) later
  generalize threshold.outcome (some ((Sink.ofValues kind values).aggregate elapsed)) = first
    at before failed
  generalize threshold.outcome (some ((Sink.ofValues kind (values ++ more)).aggregate later)) = last
    at after
  cases after with
  | inapplicable | undecided | missed => rfl
  | met late applies found holds =>
    exfalso
    cases before with
    | undecided | met => contradiction
    | inapplicable none => exact Bool.false_ne_true (none.symm.trans applies)
    | missed early before fails =>
      refine Bool.false_ne_true (fails.symm.trans ?_)
      cases stands with
      | inapplicable none => exact absurd (none.symm.trans applies) Bool.false_ne_true
      | untouched nothing timeless =>
        subst nothing
        rw [List.append_nil, Statistic.recompute_timeless timeless, before] at found
        rwa [Option.some.inj found]
      | recedes recedes forward =>
        exact Expression.holds_of_recedes recedes forward recordable before found holds

end Threshold

end LoadTest
