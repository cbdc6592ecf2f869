/-
**No result of a run is read again from its text.**

A result is written with the summaries of all its metrics, and it is read only if each of these is.
Every run counts its requests, and the summary of a counter has no counts of a rate; these are left
out of the text although the reader needs them. So a result can be written, but what is written is
refused, whatever the run did.

* `RunResult.read?_of_omitted`: a result with such a summary is not read;
* `Run.exists_omitted`: every run has one;
* `RunResult.read?_summaries`: which summaries, tables of summaries and results are read again.
-/

import LoadTest.Proofs.Metric.SummarySurvival
import LoadTest.Proofs.Run.Aborted

namespace LoadTest

open Json (Reader)
open Json.Reader
open Decimal

namespace RunResult

/-- A result is read from its own text as a record that has its summaries. -/
theorem exists_record {β : Type} (read : Record → Option β) (result : RunResult) (room : ℕ) :
    ∃ record : Record, record.room = room ∧ record.members.lookup "metrics" =
        some (Json.ofTable MetricSummary.json result.metrics).written ∧
      Reader.record fields .skipped read (room + 1) result.json.written = read record := by
  have listed : [("name", Json.string result.name), ("status", .string result.status.name),
      ("duration", .ofFloat result.milliseconds), ("iterations", .ofNat result.iterations),
      ("vus_max", .ofNat result.peakUsers), ("metrics", .ofTable MetricSummary.json result.metrics),
      ("checks", .ofTable CheckTally.json result.checks),
      ("thresholds", .ofList ThresholdReport.json result.thresholds)].map Prod.fst = fields := rfl
  obtain ⟨record, isRoom, holds, same⟩ := exists_object .skipped read listed (by decide) room
  exact ⟨record, isRoom,
    holds ("metrics", .ofTable MetricSummary.json result.metrics) (by simp), same⟩

/-- **A result is not read if one of its summaries is not.** -/
theorem read?_of_omitted {result : RunResult}
    (omitted : ∃ entry ∈ result.metrics.toList, entry.2.OmitsCount) :
    Json.read? reader result.json.compact = none := by
  obtain ⟨entry, inside, omits⟩ := omitted
  unfold Json.read?
  rw [Json.parse?_compact, Option.bind_some]
  obtain ⟨record, room, metrics, same⟩ := exists_record _ result 126
  refine same.trans ?_
  have unread : record.need "metrics" (table MetricSummary.reader) = none := by
    rw [Record.need, metrics, Option.bind_some, room]
    exact table_of_unread inside (MetricSummary.reader_of_omitted omits _)
  simp only [unread, Option.bind_eq_bind, Option.bind_none, Option.bind_fun_none]

end RunResult

namespace Run

variable {setup : Setup} {turns : List Turn} {result : RunResult}

/-- **Every run has a counter**: that of its requests. -/
theorem exists_omitted (closed : (moment setup turns).result? = some result) :
    ∃ entry ∈ result.metrics.toList, entry.2.OmitsCount := by
  obtain ⟨status, peak, now, rfl⟩ := exists_result closed
  have counter : (recorded setup (deposits setup turns)).kindOf? BuiltIn.requests =
      some .counter :=
    Recorder.kindOf?_recordAll _ (Recorder.kindOf?_new _ _)
  obtain ⟨sink, found, kind⟩ := Option.map_eq_some_iff.1 counter
  have summarised : (Run.result setup status peak (recorded setup (deposits setup turns))
      now).metrics.get? BuiltIn.requests = some (sink.aggregate
        ((recorded setup (deposits setup turns)).elapsed (setup.clock now))).summary := by
    unfold Run.result Snapshot.summaries Recorder.snapshot
    rw [Table.get?_map, Table.get?_map, found]
    rfl
  refine ⟨_, Table.mem_of_lookup summarised, Aggregate.omitsCount_of_kind ?_⟩
  rw [Sink.kind_aggregate, kind]
  decide

end Run

namespace RunResult

/-- **Which summaries are read again.** The summary of an aggregate is, if it has both counts of a
rate, and so is a table of such summaries; no result of a run is. -/
theorem read?_summaries (aggregate : Aggregate Float) (metrics : Table MetricSummary)
    (result : RunResult) :
    (aggregate.summary.Storable →
      Json.read? MetricSummary.reader aggregate.summary.json.compact =
        if aggregate.summary.OmitsCount then none else some aggregate.summary) ∧
    ((∀ entry ∈ metrics.toList, entry.2.Storable) →
      Json.read? (table MetricSummary.reader) (Json.ofTable MetricSummary.json metrics).compact =
        if ∃ entry ∈ metrics.toList, entry.2.OmitsCount then none else some metrics) ∧
    ((∃ entry ∈ result.metrics.toList, entry.2.OmitsCount) →
      Json.read? reader result.json.compact = none) ∧
    ∀ (setup : Setup) (turns : List Turn), (Run.moment setup turns).result? = some result →
      Json.read? reader result.json.compact = none := by
  refine ⟨fun storable => ?_, fun storable => ?_, read?_of_omitted,
    fun setup turns closed => read?_of_omitted (Run.exists_omitted closed)⟩
  · unfold Json.read?
    rw [Json.parse?_compact]
    exact MetricSummary.reader_written storable _
  · unfold Json.read?
    rw [Json.parse?_compact]
    exact MetricSummary.table_written storable _

/-- A rate of two that held and one that did not is read again, also from a table, and the result of
a run of three iterations is not. -/
theorem read?_summaries_rate :
    let rate : Aggregate Float := .rate 2 1 []
    let metrics : Table MetricSummary := Table.empty.insert "checks" rate.summary
    rate.summary.Storable ∧
      Json.read? MetricSummary.reader rate.summary.json.compact = some rate.summary ∧
      Json.read? (table MetricSummary.reader) (Json.ofTable MetricSummary.json metrics).compact =
        some metrics ∧
      ∃ result, (Run.moment Run.faltering Run.faltered).result? = some result ∧
        (∃ entry ∈ result.metrics.toList, entry.2.OmitsCount) ∧
        Json.read? reader result.json.compact = none := by
  intro rate metrics
  have storable : rate.summary.Storable :=
    ⟨by decide +kernel, by decide +kernel, by decide, by decide⟩
  have whole : ¬ rate.summary.OmitsCount := by decide
  have each : ∀ entry ∈ metrics.toList, entry.2.Storable := fun entry inside => by
    obtain rfl := List.mem_singleton.1 inside
    exact storable
  have none : ¬ ∃ entry ∈ metrics.toList, entry.2.OmitsCount := by decide
  have ended : (Run.moment Run.faltering Run.faltered).result?.isSome = true := by decide +kernel
  obtain ⟨result, closed⟩ := Option.isSome_iff_exists.1 ended
  obtain ⟨single, table, -, run⟩ := read?_summaries rate metrics result
  exact ⟨storable, (single storable).trans (if_neg whole), (table each).trans (if_neg none), result,
    closed, Run.exists_omitted closed, run _ _ closed⟩

/-- **The summary of a trend is not read again**, although its values are finite. -/
theorem read?_summary_fails :
    ¬ ∀ aggregate : Aggregate Float, aggregate.summary.Storable →
      Json.read? MetricSummary.reader aggregate.summary.json.compact = some aggregate.summary := by
  intro always
  have storable : (Aggregate.trend [(1 : Float)]).summary.Storable :=
    ⟨by decide +kernel, by decide +kernel, by decide, by decide⟩
  have read := always _ storable
  have unread : Json.read? MetricSummary.reader
      (Aggregate.trend [(1 : Float)]).summary.json.compact = none := by
    unfold Json.read?
    rw [Json.parse?_compact]
    exact MetricSummary.reader_of_omitted (.inl rfl) _
  rw [unread] at read
  contradiction

end RunResult

end LoadTest
