/-
**Verdicts from the samples themselves.**

The verdict on a threshold is computed from what the recorder keeps under the text of its selector.
It is the verdict that the samples themselves give: those that the recorder took and that belong to
the selector, with the tags of the plan behind their own, and nothing else. The selectors of other
thresholds and the samples of other metrics have no part in it.

* `Threshold.judged`: the verdict on a list of samples;
* `Threshold.reports_eq_judged`: the verdicts on a snapshot are those on the samples.
-/

import LoadTest.Proofs.Metric.Recompute
import LoadTest.Proofs.Recorder.History
import LoadTest.Threshold.Verdict

set_option linter.unusedSectionVars false

namespace LoadTest

open Rounding Selector

/-! ### The definition -/

/-- The kind of the metric that a selector names: that of a metric of every run, or else that of the
first sample that belongs to it. -/
def Selector.kindOf? {α : Type} (selector : Selector) (members : List (Sample α)) :
    Option MetricKind :=
  (if selector.isSubmetric then none else BuiltIn.all.lookup selector.name).or
    (members.head?.map Sample.kind)

namespace Threshold

/-- **The verdict on the samples that belong to a threshold.** -/
def judged (threshold : Threshold) (members : List (Sample Float)) (elapsed : Duration) : Outcome :=
  let statistic := threshold.expression.statistic
  match threshold.metric.kindOf? members with
  | none => threshold.unobserved
  | some kind =>
    if statistic.appliesTo kind = false then
      .failed none (some (StatisticGap.notApplicable kind).message)
    else if members.isEmpty || statistic.isTimeless kind elapsed then threshold.unobserved
    else match statistic.recompute kind (members.map Sample.value) elapsed with
      | some observed =>
        if threshold.expression.holds observed then .passed observed else .failed (some observed) none
      | none => threshold.unobserved

/-- A threshold that was made of a text, whether or not it may stop a run. -/
def Parsed (threshold : Threshold) : Prop :=
  ∃ metric expression, parse metric expression = .ok { threshold with abort := none }

/-- The samples of a list that belong to a threshold, under the tags of a plan. -/
def members (threshold : Threshold) (tags : Tags) (samples : List (Sample Float)) :
    List (Sample Float) :=
  samples.filter fun sample => threshold.metric.covers tags sample

end Threshold

/-! ### What a threshold is read from -/

/-- A percentile that is read has a rank from 0 to 100. -/
theorem Statistic.rank_of_parse {text : List Char} {rank : Float}
    (read : Statistic.parse text = .ok (.percentile rank)) : 0 ≤ rank ∧ rank ≤ 100 := by
  have unranked : ∀ entry ∈ Statistic.named, entry.2 ≠ .percentile rank := by
    simp [Statistic.named]
  unfold Statistic.parse at read
  cases found : Statistic.named.lookup (String.ofList text) with
  | some statistic =>
    rw [found] at read
    obtain rfl : statistic = .percentile rank := Except.ok.inj read
    exact absurd rfl (unranked _ (Table.mem_of_lookup found))
  | none =>
    rw [found] at read
    dsimp only at read
    split at read
    · contradiction
    · split at read
      · contradiction
      · split at read
        · rename_i inside
          cases read
          exact inside
        · contradiction

/-- The statistic of an expression is read from a part of its text. -/
theorem Expression.statistic_of_parse {input : String} {expression : Expression}
    (read : Expression.parse input = .ok expression) :
    ∃ text, Statistic.parse text = .ok expression.statistic := by
  unfold Expression.parse at read
  dsimp only at read
  split at read
  · contradiction
  split at read
  · contradiction
  rename_i comparator bound _
  generalize Text.trim ((Text.trim input.toList).takeWhile fun c => !Comparator.isMark c) = text
    at read
  refine ⟨text, ?_⟩
  generalize Expression.parseBound (Text.trim bound) = limit at read
  generalize Statistic.parse text = named at read ⊢
  cases named with
  | error fault => nomatch read
  | ok statistic =>
    cases limit with
    | error fault => nomatch read
    | ok value => exact congrArg Except.ok (congrArg Expression.statistic (Except.ok.inj read))

namespace Threshold

variable {threshold : Threshold}

theorem Parsed.legible (parsed : threshold.Parsed) : Legible threshold.metric := by
  obtain ⟨metric, expression, read⟩ := parsed
  exact legible_of_parse? (parts_of_parse read).1

theorem Parsed.rank (parsed : threshold.Parsed) {rank : Float}
    (asked : threshold.expression.statistic = .percentile rank) : 0 ≤ rank ∧ rank ≤ 100 := by
  obtain ⟨metric, expression, read⟩ := parsed
  obtain ⟨-, found, -⟩ := parts_of_parse read
  obtain ⟨text, named⟩ := Expression.statistic_of_parse found
  rw [asked] at named
  exact Statistic.rank_of_parse named

/-! ### What is kept for a threshold -/

/-- A metric without samples, as every run begins with it. -/
theorem get?_new_show (selectors : List Selector) {selector : Selector} :
    (Recorder.new selectors : Recorder Float).sinks.get? selector.show =
      (selector.kindOf? ([] : List (Sample Float))).map .empty := by
  unfold kindOf?
  rw [List.head?_nil, Option.map_none, Option.or_none]
  cases tagged : selector.isSubmetric with
  | true => exact Recorder.get?_new_tagged selectors tagged
  | false =>
    rw [Recorder.get?_new, show_untagged tagged]
    rfl

/-- What the samples of a metric come to: all their values, under the kind of the metric. -/
theorem kept_eq_ofValues (selector : Selector) (samples : List (Sample Float)) :
    samples.foldl Recorder.grown
        ((selector.kindOf? ([] : List (Sample Float))).map (Sink.empty : MetricKind → Sink Float)) =
      (selector.kindOf? samples).map fun kind => Sink.ofValues kind (samples.map Sample.value) := by
  unfold kindOf?
  rw [List.head?_nil, Option.map_none, Option.or_none]
  cases known : (if selector.isSubmetric then none else BuiltIn.all.lookup selector.name) with
  | some kind => exact Recorder.foldl_grown samples (.empty kind)
  | none =>
    cases samples with
    | nil => rfl
    | cons sample rest => exact Recorder.foldl_grown rest _

/-- **The verdict on what is kept is the verdict on the samples.** -/
theorem outcome_eq_judged (threshold : Threshold) (samples : List (Sample Float))
    (elapsed : Duration) :
    threshold.outcome ((threshold.metric.kindOf? samples).map fun kind =>
      (Sink.ofValues kind (samples.map Sample.value)).aggregate elapsed) =
        threshold.judged samples elapsed := by
  unfold judged
  cases threshold.metric.kindOf? samples with
  | none => rfl
  | some kind =>
    rw [Option.map_some]
    unfold outcome
    dsimp only
    rw [statistic_ofValues, List.isEmpty_map]
    by_cases applies : threshold.expression.statistic.appliesTo kind = false
    · rw [if_pos applies, if_pos applies]
    rw [if_neg applies, if_neg applies]
    by_cases undecided : (samples.isEmpty ||
        threshold.expression.statistic.isTimeless kind elapsed) = true
    · rw [if_pos undecided, if_pos undecided]
    rw [if_neg undecided, if_neg undecided]
    cases threshold.expression.statistic.recompute kind (samples.map Sample.value) elapsed with
    | none => rfl
    | some observed => rfl

/-- A statistic that applies to some values has a value, when the values can be counted exactly. -/
theorem recompute_isSome (parsed : threshold.Parsed) {kind : MetricKind}
    (applies : threshold.expression.statistic.appliesTo kind = true) {values : List (Measured Float)}
    (some : values ≠ []) (few : values.length ≤ 2 ^ 53) (elapsed : Duration) :
    (threshold.expression.statistic.recompute kind values elapsed).isSome = true := by
  have count : (Scalar.sort (values.map Measured.toNumber)).length = values.length := by
    rw [length_sort, List.length_map]
  have sorted : Scalar.sort (values.map Measured.toNumber) ≠ [] := by
    rw [← List.length_pos_iff, count]
    exact List.length_pos_iff.mpr some
  have zero := denotes_exact (n := 0) (by decide)
  have half := denotes_exact (n := 50) (by decide)
  have hundred := denotes_exact (n := 100) (by decide)
  rw [← count] at few
  cases kind with
  | counter =>
    cases asked : threshold.expression.statistic <;> rfl
  | rate =>
    cases asked : threshold.expression.statistic <;> rfl
  | trend =>
    cases asked : threshold.expression.statistic with
    | rate =>
      rw [asked] at applies
      contradiction
    | avg => rfl
    | count => rfl
    | sum => rfl
    | min => exact List.isSome_head?.mpr sorted
    | max => exact List.getLast?_isSome.mpr sorted
    | med =>
      have low : Float.ofNat 0 ≤ Float.ofNat 50 := (zero.le_iff half).mpr (by norm_num)
      have high : Float.ofNat 50 ≤ Float.ofNat 100 := (half.le_iff hundred).mpr (by norm_num)
      exact percentile_isSome low high sorted few
    | percentile rank =>
      obtain ⟨low, high⟩ := parsed.rank asked
      exact percentile_isSome low high sorted few

/-! ### The verdicts of a run -/

/-- **The verdicts on a snapshot are those on the samples.** For any thresholds that were read, any
tags of the plan and any history of samples of plain metrics, the recorder that is built from the
selectors reports on each threshold what the samples that it took and that belong to the threshold
give; and where they give a value, there is one. (The bound is that of exact counting: `2 ^ 53`
values fill an address space of `2 ^ 56` bytes.) -/
theorem reports_eq_judged {thresholds : List Threshold}
    (parsed : ∀ threshold ∈ thresholds, threshold.Parsed) (tags : Tags) {history : List (Delivery Float)}
    (plain : ∀ delivery ∈ history, ∀ sample ∈ delivery.sample?, Plain sample.metric)
    (now : Duration) :
    let fresh : Recorder Float := .new (thresholds.map Threshold.metric)
    let recorder := fresh.follow tags history
    let taken := fresh.taken tags history
    let elapsed := recorder.elapsed now
    (recorder.snapshot now).reports thresholds = (thresholds.map fun threshold =>
        threshold.report (threshold.judged (threshold.members tags taken) elapsed)) ∧
      ∀ threshold ∈ thresholds, ∀ kind,
        threshold.metric.kindOf? (threshold.members tags taken) = some kind →
        threshold.expression.statistic.appliesTo kind = true →
        threshold.members tags taken ≠ [] → (threshold.members tags taken).length ≤ 2 ^ 53 →
        (threshold.expression.statistic.recompute kind
          ((threshold.members tags taken).map Sample.value) elapsed).isSome = true := by
  intro fresh recorder taken elapsed
  have legible : ∀ selector ∈ thresholds.map Threshold.metric, Legible selector := by
    intro selector member
    obtain ⟨threshold, inside, rfl⟩ := List.mem_map.mp member
    exact (parsed threshold inside).legible
  constructor
  · unfold Snapshot.reports
    refine List.map_congr_left fun threshold inside => ?_
    have member := List.mem_map_of_mem (f := Threshold.metric) inside
    have kept : (threshold.metric).isSubmetric = true → threshold.metric ∈ fresh.submetrics :=
      fun tagged => mem_submetricsOf.mpr ⟨member, tagged⟩
    have found : recorder.sinks.get? threshold.metric.show = _ :=
      Recorder.kept_after (Recorder.aligned_new legible) (legible _ member) kept plain
    rw [get?_new_show, kept_eq_ofValues] at found
    have seen : (recorder.snapshot now).get? threshold.metric =
        (threshold.metric.kindOf? (threshold.members tags taken)).map fun kind =>
          (Sink.ofValues kind ((threshold.members tags taken).map Sample.value)).aggregate elapsed := by
      unfold Snapshot.get? Recorder.snapshot
      rw [Table.get?_map, found, Option.map_map]
      rfl
    rw [seen, outcome_eq_judged]
  · intro threshold inside kind _ applies some few
    refine recompute_isSome (parsed threshold inside) applies ?_ ?_ elapsed
    · exact fun none => some (List.map_eq_nil_iff.mp none)
    · rw [List.length_map]
      exact few

/-- Two thresholds share a metric: the sample of another zone counts for one of them, the sample that
comes after the end for none, and a metric without samples leaves its threshold undecided. -/
theorem reports_of_zones :
    let thresholds : List Threshold :=
      [⟨⟨"checks", [("zone", "a")]⟩, ⟨.rate, .ge, 1⟩, "rate>=1", none⟩,
        ⟨⟨"checks", []⟩, ⟨.rate, .ge, 1⟩, "rate>=1", some ⟨none⟩⟩,
        ⟨⟨"iterations", []⟩, ⟨.count, .gt, 0⟩, "count>0", none⟩]
    let tags : Tags := .ofList [("zone", "a")]
    let history : List (Delivery Float) :=
      [.emitted .zero (.rate "checks" true),
        .emitted .zero ((Sample.rate "checks" false).tag "zone" "b"), .closed .zero,
        .emitted .zero (.counter "iterations" 1)]
    (∀ threshold ∈ thresholds, threshold.Parsed) ∧
      (∀ delivery ∈ history, ∀ sample ∈ delivery.sample?, Plain sample.metric) ∧
      ((((Recorder.new (thresholds.map Threshold.metric)).follow tags history).snapshot
        .zero).reports thresholds).map ThresholdReport.outcome =
          [.passed 1, .failed (some (1 / 2)) none,
            .indeterminate "no samples recorded for iterations"] := by
  intro thresholds tags history
  have parsed : ∀ threshold ∈ thresholds, threshold.Parsed := by
    intro threshold member
    rcases List.mem_cons.mp member with rfl | member
    · exact ⟨"checks{zone: a}", "rate>=1", by decide +kernel⟩
    rcases List.mem_cons.mp member with rfl | member
    · exact ⟨"checks", "rate>=1", by decide +kernel⟩
    obtain rfl := List.mem_singleton.mp member
    exact ⟨"iterations", "count>0", by decide +kernel⟩
  have plain : ∀ delivery ∈ history, ∀ sample ∈ delivery.sample?, Plain sample.metric := by
    decide +kernel
  refine ⟨parsed, plain, ?_⟩
  rw [(reports_eq_judged parsed tags plain .zero).1]
  decide +kernel

end Threshold

end LoadTest
