/-
**Statistics recomputed from the values.**

What is kept of a metric is updated value by value; a statistic can also be computed at the end from
all values that came. A counter is the sum of the values from zero on, in their order, a rate is how
often a value held among all of them, and a trend is computed from the sorted values.

* `Statistic.recompute`: a statistic of a list of values;
* `Sink.ofValues`: what is kept of a list of values;
* `Sink.statistic_ofValues`: both give the same statistic.
-/

import LoadTest.Proofs.Duration.Seconds
import LoadTest.Proofs.Metric.Percentile
import LoadTest.Recorder.Sink

namespace LoadTest

open Rounding

/-- **A statistic of all values that came**, over a span of time. -/
def Statistic.recompute (statistic : Statistic) (kind : MetricKind) (values : List (Measured Float))
    (elapsed : Duration) : Option Float :=
  let numbers := values.map Measured.toNumber
  let total := numbers.foldl (· + ·) (Float.ofNat 0)
  let sorted := Scalar.sort numbers
  let count := Float.ofNat values.length
  match kind, statistic with
  | .counter, .rate => some (total / elapsed.toScalar)
  | .counter, _ => some total
  | .rate, .rate => some (Float.ofNat (values.countP Measured.holds) / count)
  | .rate, _ => some count
  | .trend, .avg => some (Scalar.sum sorted / count)
  | .trend, .min => sorted.head?
  | .trend, .max => sorted.getLast?
  | .trend, .med => LoadTest.percentile sorted 50
  | .trend, .percentile rank => LoadTest.percentile sorted rank
  | .trend, .count => some count
  | .trend, .sum => some (Scalar.sum sorted)
  | .trend, .rate => none

/-- Whether a statistic asks for a counter's total per second of no time. -/
def Statistic.isTimeless (statistic : Statistic) (kind : MetricKind) (elapsed : Duration) : Bool :=
  kind = .counter && statistic = .rate && elapsed.isZero

/-! ### What is kept of some values -/

/-- The total of some steps of a counter, added one by one. -/
def Measured.total {α : Type} [Scalar α] (values : List (Measured α)) : α :=
  (values.map Measured.toNumber).foldl (· + ·) (Scalar.ofNat 0)

namespace Sink

variable {α : Type} [Scalar α]

/-- What is kept of some values of a metric. -/
def ofValues (kind : MetricKind) (values : List (Measured α)) : Sink α :=
  values.foldl push (empty kind)

theorem foldl_push_counter (values : List (Measured α)) (events : Nat) (total : α) :
    values.foldl push (.counter events total) =
      .counter (events + values.length) ((values.map Measured.toNumber).foldl (· + ·) total) := by
  induction values generalizing events total with
  | nil => rfl
  | cons value rest ih =>
    rw [List.foldl_cons, List.length_cons, List.map_cons, List.foldl_cons, Nat.add_comm rest.length,
      ← Nat.add_assoc]
    exact ih (events + 1) (total + value.toNumber)

theorem foldl_push_rate (values : List (Measured α)) (trues falses : Nat) :
    values.foldl push (.rate trues falses) = .rate (trues + values.countP Measured.holds)
      (falses + values.countP fun value => !value.holds) := by
  induction values generalizing trues falses with
  | nil => rfl
  | cons value rest ih =>
    rw [List.foldl_cons, List.countP_cons, List.countP_cons]
    cases held : value.holds with
    | true =>
      have pushed : push (.rate trues falses) value = .rate (trues + 1) falses := if_pos held
      rw [pushed, ih, if_pos rfl, if_neg (by decide)]
      congr 1
      omega
    | false =>
      have pushed : push (.rate trues falses) value = .rate trues (falses + 1) :=
        if_neg (by rw [held]; exact Bool.false_ne_true)
      rw [pushed, ih, if_neg (by decide), if_pos (by decide)]
      congr 1
      omega

theorem foldl_push_trend (values : List (Measured α)) (kept : List α) :
    values.foldl push (.trend kept) =
      .trend ((values.map Measured.toNumber).reverse ++ kept) := by
  induction values generalizing kept with
  | nil => rfl
  | cons value rest ih =>
    rw [List.foldl_cons, List.map_cons, List.reverse_cons, List.append_assoc, List.singleton_append]
    exact ih (value.toNumber :: kept)

theorem kind_ofValues (kind : MetricKind) (values : List (Measured α)) :
    (ofValues kind values).kind = kind := by
  unfold ofValues
  induction values using List.reverseRecOn with
  | nil => exact kind_empty kind
  | append_singleton rest value ih => rw [List.foldl_concat, kind_push, ih]

theorem aggregate_counter (values : List (Measured α)) (elapsed : Duration) :
    (ofValues .counter values).aggregate elapsed =
      .counter values.length (Measured.total values) elapsed := by
  unfold ofValues empty
  rw [foldl_push_counter, Nat.zero_add]
  rfl

theorem aggregate_rate (values : List (Measured α)) (elapsed : Duration) :
    (ofValues .rate values).aggregate elapsed =
      .rate (values.countP Measured.holds) (values.countP fun value => !value.holds) [] := by
  unfold ofValues empty
  rw [foldl_push_rate, Nat.zero_add, Nat.zero_add]
  rfl

end Sink

/-! ### Its statistics -/

/-- A span has some seconds unless it is empty. -/
theorem Duration.lt_toScalar (d : Duration) :
    Scalar.lt (Scalar.ofNat 0) (d.toScalar : Float) = !d.isZero := by
  have zero := denotes_exact (n := 0) (by decide)
  have order := zero.lt_iff (denotes_toScalar d)
  show decide ((Scalar.ofNat 0 : Float) < d.toScalar) = !decide (d.nanos = 0)
  by_cases none : d.nanos = 0
  · have still : d.nearSeconds = 0 := by
      obtain rfl : d = .zero := Duration.ext none
      have whole : ((Duration.zero.seconds : ℕ) : ℚ) = 0 := by norm_num [Duration.seconds, zero]
      have part : ((Duration.zero.subsecond : ℕ) : ℚ) = 0 := by norm_num [Duration.subsecond, zero]
      unfold nearSeconds nearFraction
      rw [whole, part, zero_div, near_zero, add_zero, near_zero]
    rw [decide_eq_true none, Bool.not_true, decide_eq_false_iff_not, order, still]
    exact lt_irrefl _
  · have lasts := nearSeconds_pos (Nat.pos_of_ne_zero none)
    rw [decide_eq_false none, Bool.not_false, decide_eq_true_iff, order]
    exact_mod_cast lasts

section Statistics

variable (values : List (Measured Float)) (elapsed : Duration)

theorem aggregate_trend : (Sink.ofValues .trend values).aggregate elapsed =
    .trend (Scalar.sort (values.map Measured.toNumber)) := by
  unfold Sink.ofValues Sink.empty
  rw [Sink.foldl_push_trend, List.append_nil]
  exact congrArg Aggregate.trend (sort_congr (List.reverse_perm _))

theorem length_sort (numbers : List Float) : (Scalar.sort numbers).length = numbers.length :=
  (List.mergeSort_perm ..).length_eq

theorem countP_holds : values.countP Measured.holds +
    values.countP (fun value => !value.holds) = values.length := by
  have both := List.length_eq_countP_add_countP (l := values) Measured.holds
  simp only [Bool.not_eq_true, Bool.decide_eq_false] at both
  exact both.symm

theorem samples_ofValues (kind : MetricKind) :
    ((Sink.ofValues kind values).aggregate elapsed).samples = values.length := by
  cases kind with
  | counter =>
    rw [Sink.aggregate_counter]
    rfl
  | rate =>
    rw [Sink.aggregate_rate]
    exact countP_holds values
  | trend =>
    rw [aggregate_trend]
    show (Scalar.sort _).length = _
    rw [length_sort, List.length_map]

/-- What is kept of some values has the average and the rate that the values have. -/
theorem avg_sorted (some : values ≠ []) :
    (Aggregate.trend (Scalar.sort (values.map Measured.toNumber))).avg =
      Statistic.avg.recompute .trend values elapsed := by
  have count : (Scalar.sort (values.map Measured.toNumber)).length = values.length := by
    rw [length_sort, List.length_map]
  have filled : (Scalar.sort (values.map Measured.toNumber)).isEmpty = false := by
    rw [List.isEmpty_eq_false_iff, ← List.length_pos_iff, count]
    exact List.length_pos_iff.mpr some
  unfold Aggregate.avg
  show (if (Scalar.sort (values.map Measured.toNumber)).isEmpty then none else _) = _
  rw [filled, if_neg Bool.false_ne_true]
  show Option.some (_ / Scalar.ofNat (Scalar.sort (values.map Measured.toNumber)).length) = _
  rw [count]
  rfl

theorem perUnit_rate (some : values ≠ []) :
    (Aggregate.rate (values.countP Measured.holds) (values.countP fun value => !value.holds)
      ([] : List Float)).perUnit = Statistic.rate.recompute .rate values elapsed := by
  have filled : values.length ≠ 0 := List.length_pos_iff.mpr some |>.ne'
  unfold Aggregate.perUnit
  dsimp only
  rw [countP_holds, if_neg filled]
  rfl

/-- **What is kept of some values gives the statistics that the values have.** -/
theorem statistic_ofValues (kind : MetricKind) (statistic : Statistic) :
    ((Sink.ofValues kind values).aggregate elapsed).statistic statistic =
      if statistic.appliesTo kind = false then .error (.notApplicable kind)
      else if values.isEmpty || statistic.isTimeless kind elapsed then .error .noSamples
      else match statistic.recompute kind values elapsed with
        | some observed => .ok observed
        | none => .error .noSamples := by
  have isKind : ((Sink.ofValues kind values).aggregate elapsed).kind = kind := by
    rw [Sink.kind_aggregate, Sink.kind_ofValues]
  unfold Aggregate.statistic
  rw [isKind, samples_ofValues]
  cases applies : statistic.appliesTo kind with
  | false => rfl
  | true =>
    rw [Bool.not_true, if_neg Bool.false_ne_true, if_neg Bool.true_eq_false.mp]
    by_cases none : values = []
    · subst none
      rfl
    rw [if_neg (List.length_pos_iff.mpr none).ne', List.isEmpty_eq_false_iff.mpr none, Bool.false_or]
    cases kind with
    | counter =>
      rw [Sink.aggregate_counter]
      cases statistic with
      | rate =>
        unfold Aggregate.perUnit
        dsimp only
        rw [Duration.lt_toScalar]
        cases still : elapsed.isZero with
        | true =>
          have timeless : Statistic.rate.isTimeless .counter elapsed = true := still
          rw [timeless]
          rfl
        | false =>
          have timely : Statistic.rate.isTimeless .counter elapsed = false := still
          rw [timely]
          rfl
      | count => rfl
      | sum => rfl
      | _ => contradiction
    | rate =>
      rw [Sink.aggregate_rate]
      cases statistic with
      | rate =>
        dsimp only
        rw [perUnit_rate values elapsed none]
        rfl
      | count => rfl
      | _ => contradiction
    | trend =>
      rw [aggregate_trend]
      cases statistic with
      | rate => contradiction
      | avg =>
        dsimp only
        rw [avg_sorted values elapsed none]
        rfl
      | _ => rfl

end Statistics

end LoadTest
