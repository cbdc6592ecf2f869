/-
**The export agrees with the verdicts.**

What is exported of a run shows the summary of each metric and, beside it, whether each of its
thresholds passed, under the text of the threshold. Thresholds with the same metric and the same text
are the same condition, so none of them overwrites another verdict; and the value that a threshold
was judged by is the one that the summary shows, if it shows that statistic at all.

* `RunResult.at?_metrics`, `RunResult.at?_thresholds`: what stands where in the export;
* `Threshold.Parsed.outcome_congr`: when two thresholds have the same verdict;
* `Json.ShowsVerdicts`, `RunResult.Agrees`: the export agrees with the verdicts on a snapshot;
* `RunResult.agrees_of_snapshot`, `Run.summaryJson_agrees`: so it does, and in every run.
-/

import LoadTest.Proofs.Json.Members
import LoadTest.Proofs.Metric.Figures
import LoadTest.Proofs.Threshold.Judged
import LoadTest.Run.Basic

namespace LoadTest

/-! ### The definitions -/

/-- The verdict on a threshold. -/
def Snapshot.verdict (snapshot : Snapshot Float) (threshold : Threshold) : Outcome :=
  threshold.outcome (snapshot.get? threshold.metric)

/-- **What is exported about a metric shows the verdicts on its thresholds.** -/
structure Json.ShowsVerdicts (entry : Json) (snapshot : Snapshot Float)
    (thresholds : List Threshold) (metric : String) : Prop where
  /-- There are verdicts if there are thresholds. -/
  some : (entry.at? ["thresholds"]).isSome ↔
    ∃ threshold ∈ thresholds, threshold.metric.show = metric
  /-- They stand under the texts of just these thresholds. -/
  keys : ∀ source, (entry.at? ["thresholds", source]).isSome ↔
    ∃ threshold ∈ thresholds, threshold.metric.show = metric ∧ threshold.source = source
  /-- None of them overwrites another verdict. -/
  passed : ∀ threshold ∈ thresholds, threshold.metric.show = metric →
    entry.at? ["thresholds", threshold.source, "ok"] =
      .some (.bool (snapshot.verdict threshold).isPassed)

/-- **The export of a result agrees with the verdicts on a snapshot.** -/
structure RunResult.Agrees (result : RunResult) (snapshot : Snapshot Float)
    (thresholds : List Threshold) : Prop where
  /-- Every metric is exported. -/
  metrics : ∀ metric, (result.summaryJson.at? ["metrics", metric]).isSome ↔
    (snapshot.aggregates.get? metric).isSome
  verdicts : ∀ metric entry, result.summaryJson.at? ["metrics", metric] = some entry →
    entry.ShowsVerdicts snapshot thresholds metric
  /-- All thresholds count, also those of metrics without samples. -/
  passed : result.summaryJson.at? ["state", "passed"] =
    some (.bool (thresholds.all fun threshold => (snapshot.verdict threshold).isPassed))
  /-- What was observed is what the summary shows, and what is exported of it. -/
  observed : ∀ threshold ∈ thresholds, ∀ x, (snapshot.verdict threshold).observed = some x →
    threshold.expression.statistic.show ∈ Statistic.shown.map Prod.fst →
      ∃ summary, result.metrics.get? threshold.metric.show = some summary ∧
        summary.figure? threshold.expression.statistic.show = some x ∧
        result.summaryJson.at? ["metrics", threshold.metric.show,
          threshold.expression.statistic.show] = some (.ofFloat x)

/-! ### Where things stand -/

namespace RunResult

variable {result : RunResult} {key : String} {summary : MetricSummary}

/-- The verdicts on the thresholds of a metric, by their texts. -/
def verdictsOn (result : RunResult) (key : String) : List (String × Json) :=
  (result.thresholds.filter fun report => report.metric = key).map fun report =>
    (report.expression, .object [("ok", .bool report.isPassed)])

/-- The members of what is exported about a metric, with those that are left out. -/
def slotsOf (result : RunResult) (key : String) (summary : MetricSummary) :
    List (String × Option Json) :=
  summary.slots ++ [("thresholds",
    if (result.verdictsOn key).isEmpty then none else some (.ofMembers (result.verdictsOn key)))]

theorem metricJson_eq (result : RunResult) (key : String) (summary : MetricSummary) :
    result.metricJson key summary = .object (Json.present (result.slotsOf key summary)) := by
  have parts : Json.present (result.slotsOf key summary) = Json.present summary.slots ++
      if (result.verdictsOn key).isEmpty then []
      else [("thresholds", .ofMembers (result.verdictsOn key))] := by
    refine List.filterMap_append.trans (congrArg _ ?_)
    cases (result.verdictsOn key).isEmpty <;> rfl
  unfold metricJson
  rw [MetricSummary.json_eq, parts]
  rfl

theorem nodup_slotsOf (result : RunResult) (key : String) (summary : MetricSummary) :
    ((result.slotsOf key summary).map Prod.fst).Nodup := by
  rw [slotsOf, List.map_append, MetricSummary.keys_slots]
  exact (by decide : (MetricSummary.fields ++ ["thresholds"]).Nodup)

/-- **What is exported about a metric**, by its slots. -/
theorem at?_metricJson {name : String} {value : Option Json}
    (inside : (name, value) ∈ result.slotsOf key summary) (path : List String) :
    (result.metricJson key summary).sorted.at? (name :: path) =
      value.bind fun part => part.sorted.at? path := by
  have apart := result.nodup_slotsOf key summary
  rw [metricJson_eq, Json.at?_sorted ((Json.keys_present_sublist _).nodup apart),
    Json.lookup_present apart, Table.lookup_of_mem apart inside]
  rfl

/-- The verdicts stand under the texts of the thresholds. -/
theorem at?_thresholds (source : String) (path : List String) :
    (result.metricJson key summary).sorted.at? ("thresholds" :: source :: path) =
      ((Table.ofList (result.verdictsOn key)).get? source).bind fun part => part.sorted.at? path := by
  rw [at?_metricJson (List.mem_append_right _ (List.mem_singleton.2 rfl))]
  cases none : (result.verdictsOn key).isEmpty with
  | true =>
    rw [List.isEmpty_iff.1 none]
    rfl
  | false => exact Json.at?_ofMembers_sorted _ source path

theorem at?_metrics (result : RunResult) (key : String) (path : List String) :
    result.summaryJson.at? ("metrics" :: key :: path) =
      (result.metrics.get? key).bind fun summary =>
        (result.metricJson key summary).sorted.at? path := by
  have keys : (result.metrics.toList.map fun entry =>
      (entry.1, result.metricJson entry.1 entry.2)).map Prod.fst =
        result.metrics.entries.map Prod.fst := by
    rw [List.map_map]
    rfl
  unfold summaryJson exported
  rw [Json.at?_sorted (by simp)]
  show (Json.object (result.metrics.toList.map fun entry =>
    (entry.1, result.metricJson entry.1 entry.2))).sorted.at? (key :: path) = _
  rw [Json.at?_sorted (keys ▸ result.metrics.nodup_keys), Table.lookup_map, Option.bind_map]
  rfl

theorem at?_passed (result : RunResult) :
    result.summaryJson.at? ["state", "passed"] = some (.bool result.isPassed) := by
  unfold summaryJson exported
  rw [Json.at?_sorted (by simp)]
  show (Json.object _).sorted.at? ["passed"] = _
  rw [Json.at?_sorted (by simp)]
  rfl

end RunResult

/-! ### Verdicts -/

namespace Threshold

variable {threshold other : Threshold}

/-- What is kept of the text of a threshold is read as its expression. -/
theorem Parsed.parse_source (parsed : threshold.Parsed) :
    Expression.parse threshold.source = .ok threshold.expression := by
  obtain ⟨metric, text, read⟩ := parsed
  obtain ⟨-, found, -⟩ := parts_of_parse read
  exact ((Expression.survives_texts found).2.2 metric _ read).2

/-- **Thresholds with the same metric and the same text have the same verdict.** -/
theorem Parsed.outcome_congr (parsed : threshold.Parsed) (otherParsed : other.Parsed)
    (metric : threshold.metric.show = other.metric.show) (source : threshold.source = other.source)
    (snapshot : Snapshot Float) :
    threshold.outcome (snapshot.get? threshold.metric) =
      other.outcome (snapshot.get? other.metric) := by
  have sameMetric := Selector.show_injective parsed.legible otherParsed.legible metric
  have sameExpression : threshold.expression = other.expression := by
    have own := parsed.parse_source
    rw [source, otherParsed.parse_source] at own
    exact (Except.ok.inj own).symm
  unfold outcome unobserved
  rw [sameMetric, sameExpression]

theorem Parsed.exists_statistic (parsed : threshold.Parsed) :
    ∃ text, Statistic.parse text = .ok threshold.expression.statistic := by
  obtain ⟨metric, text, read⟩ := parsed
  exact Expression.statistic_of_parse (parts_of_parse read).2.1

/-- What a verdict observes is the statistic of the metric. -/
theorem statistic_of_observed {aggregate? : Option (Aggregate Float)} {observed : Float}
    (seen : (threshold.outcome aggregate?).observed = some observed) :
    ∃ aggregate, aggregate? = some aggregate ∧
      aggregate.statistic threshold.expression.statistic = .ok observed := by
  unfold outcome at seen
  split at seen
  · contradiction
  · rename_i aggregate
    refine ⟨aggregate, rfl, ?_⟩
    split at seen
    · contradiction
    · contradiction
    · rename_i value found
      split at seen <;> exact found.trans (congrArg Except.ok (Option.some.inj seen))

end Threshold

/-! ### The agreement -/

namespace RunResult

variable {result : RunResult} {snapshot : Snapshot Float} {thresholds : List Threshold}
  {metric : String}

/-- The verdicts on the thresholds of a metric are those of the snapshot. -/
theorem mem_verdictsOn (judged : result.thresholds = snapshot.reports thresholds)
    {entry : String × Json} : entry ∈ result.verdictsOn metric ↔
      ∃ threshold ∈ thresholds, threshold.metric.show = metric ∧
        (threshold.source, Json.object [("ok", .bool (snapshot.verdict threshold).isPassed)]) =
          entry := by
  unfold verdictsOn
  rw [judged, Snapshot.reports, List.filter_map, List.map_map, List.mem_map]
  simp only [List.mem_filter, Function.comp_apply, decide_eq_true_eq, and_assoc]
  rfl

theorem showsVerdicts (parsed : ∀ threshold ∈ thresholds, threshold.Parsed)
    (judged : result.thresholds = snapshot.reports thresholds) (summary : MetricSummary) :
    (result.metricJson metric summary).sorted.ShowsVerdicts snapshot thresholds metric where
  some := by
    have some : (result.verdictsOn metric).isEmpty = false ↔
        ∃ threshold ∈ thresholds, threshold.metric.show = metric := by
      rw [List.isEmpty_eq_false_iff_exists_mem]
      constructor
      · rintro ⟨entry, inside⟩
        obtain ⟨threshold, listed, own, -⟩ := (mem_verdictsOn judged).1 inside
        exact ⟨threshold, listed, own⟩
      · rintro ⟨threshold, listed, own⟩
        exact ⟨_, (mem_verdictsOn judged).2 ⟨threshold, listed, own, rfl⟩⟩
    rw [at?_metricJson (List.mem_append_right _ (List.mem_singleton.2 rfl)), ← some]
    cases (result.verdictsOn metric).isEmpty with
    | true => exact iff_of_false Bool.false_ne_true Bool.noConfusion
    | false => exact iff_of_true rfl rfl
  keys := by
    intro source
    rw [at?_thresholds]
    show (((Table.ofList _).get? source).bind (some ∘ Json.sorted)).isSome ↔ _
    rw [← Option.map_eq_bind, Option.isSome_map, Table.isSome_get?_ofList]
    constructor
    · rintro ⟨entry, inside, rfl⟩
      obtain ⟨threshold, listed, own, rfl⟩ := (mem_verdictsOn judged).1 inside
      exact ⟨threshold, listed, own, rfl⟩
    · rintro ⟨threshold, listed, own, rfl⟩
      exact ⟨_, (mem_verdictsOn judged).2 ⟨threshold, listed, own, rfl⟩, rfl⟩
  passed := by
    intro threshold listed own
    have found : (Table.ofList (result.verdictsOn metric)).get? threshold.source =
        some (.object [("ok", .bool (snapshot.verdict threshold).isPassed)]) := by
      refine Table.get?_ofList_of_agree
        ((mem_verdictsOn judged).2 ⟨threshold, listed, own, rfl⟩) fun entry inside same => ?_
      obtain ⟨other, otherListed, otherOwn, rfl⟩ := (mem_verdictsOn judged).1 inside
      have verdict : snapshot.verdict other = snapshot.verdict threshold :=
        (parsed other otherListed).outcome_congr (parsed threshold listed)
          (otherOwn.trans own.symm) same snapshot
      rw [verdict]
    rw [at?_thresholds, found, Option.bind_some, Json.at?_sorted (by simp)]
    rfl

/-- **The export agrees with the verdicts**, if it is that of a result with the summaries of a
snapshot and the verdicts on it. -/
theorem agrees_of_snapshot (parsed : ∀ threshold ∈ thresholds, threshold.Parsed)
    (summarised : result.metrics = snapshot.summaries)
    (judged : result.thresholds = snapshot.reports thresholds) :
    result.Agrees snapshot thresholds where
  metrics := by
    intro metric
    rw [at?_metrics, summarised, Snapshot.summaries, Table.get?_map]
    cases snapshot.aggregates.get? metric <;> exact Iff.rfl
  verdicts := by
    intro metric entry found
    rw [at?_metrics] at found
    obtain ⟨summary, -, same⟩ := Option.bind_eq_some_iff.1 found
    obtain rfl := Option.some.inj same
    exact showsVerdicts parsed judged summary
  passed := by
    rw [at?_passed, isPassed, judged, Snapshot.reports, List.all_map]
    rfl
  observed := by
    intro threshold listed x seen named
    obtain ⟨aggregate, found, statistic⟩ := Threshold.statistic_of_observed seen
    obtain ⟨text, read⟩ := (parsed threshold listed).exists_statistic
    have shown := Aggregate.figure?_of_statistic (Statistic.mem_shown read named) statistic
    have summary : result.metrics.get? threshold.metric.show = some aggregate.summary := by
      rw [summarised, Snapshot.summaries, Table.get?_map]
      exact congrArg (Option.map _) found
    refine ⟨aggregate.summary, summary, shown, ?_⟩
    rw [at?_metrics, summary, Option.bind_some,
      at?_metricJson (List.mem_append_left _ (MetricSummary.mem_slots shown))]
    rfl

end RunResult

namespace Run

/-- **The export of every run agrees with its verdicts.** -/
theorem summaryJson_agrees (setup : Setup)
    (parsed : ∀ threshold ∈ setup.plan.thresholds, threshold.Parsed) (status : RunStatus)
    (peak : ℕ) (recorder : Recorder Float) (now : Duration) :
    (Run.result setup status peak recorder now).Agrees (recorder.snapshot (setup.clock now))
      setup.plan.thresholds :=
  RunResult.agrees_of_snapshot parsed rfl rfl

/-- A plan with two thresholds of one text and one on a percentile. -/
def judging : Setup :=
  .of { Plan.named "judging" with
    thresholds := [⟨⟨BuiltIn.checks, []⟩, ⟨.rate, .gt, 1 / 2⟩, "rate>0.5", none⟩,
      ⟨⟨BuiltIn.checks, []⟩, ⟨.rate, .gt, 1 / 2⟩, "rate>0.5", some ⟨none⟩⟩,
      ⟨⟨BuiltIn.requestDuration, []⟩, ⟨.percentile 90, .lt, 5⟩, "p90<5", none⟩] } fun _ _ =>
    .finish none

/-- A check that held, and a request of two milliseconds. -/
theorem summaryJson_agrees_judging :
    let recorder := (Recorder.new (judging.plan.thresholds.map Threshold.metric)).recordAll
      [.rate BuiltIn.checks true, .trend BuiltIn.requestDuration 2]
    let result := Run.result judging .completed 1 recorder .zero
    (∀ threshold ∈ judging.plan.thresholds, threshold.Parsed) ∧
      result.Agrees (recorder.snapshot (judging.clock .zero)) judging.plan.thresholds ∧
      result.summaryJson.at? ["metrics", "http_req_duration", "p(90)"] = some (.ofFloat 2) := by
  intro recorder result
  have parsed : ∀ threshold ∈ judging.plan.thresholds, threshold.Parsed := by
    simp only [judging, Setup.of, List.forall_mem_cons]
    exact ⟨⟨"checks", " rate>0.5 ", by decide +kernel⟩, ⟨"checks", "rate>0.5", by decide +kernel⟩,
      ⟨"http_req_duration", "p90<5", by decide +kernel⟩, fun _ none => absurd none List.not_mem_nil⟩
  have agrees := summaryJson_agrees judging parsed .completed 1 recorder .zero
  let slow : Threshold :=
    ⟨⟨BuiltIn.requestDuration, []⟩, ⟨.percentile 90, .lt, 5⟩, "p90<5", none⟩
  obtain ⟨summary, -, -, shown⟩ := agrees.observed slow (by simp [slow, judging, Setup.of]) 2
    (by decide +kernel) (by decide +kernel)
  have path : [slow.metric.show, slow.expression.statistic.show] =
      ["http_req_duration", "p(90)"] := by
    decide +kernel
  rw [path] at shown
  exact ⟨parsed, agrees, shown⟩

end Run

end LoadTest
