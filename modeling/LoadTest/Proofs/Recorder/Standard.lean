/-
**The recorder of a run takes every sample of a run.**

Runs record samples of the metrics that every run has, each of its own kind. The text of a submetric
begins with its metric, so whatever is kept under a text has the kind of the metric that the text
begins with. A finite sample is therefore never refused, adds one to its own metric, and changes no
other metric.

* `Recorder.Standard`: a recorder that runs record into;
* `Recorder.record_standard`: a sample of a run is taken.
-/

import Mathlib.Data.List.TakeWhile
import LoadTest.Proofs.Recorder.History

namespace LoadTest

open Selector

/-! ### Samples of a metric -/

/-- How many samples a metric has. -/
def Sink.samples : Sink Float → Nat
  | .counter events _ => events
  | .rate trues falses => trues + falses
  | .trend values => values.length

theorem Sink.samples_push (sink : Sink Float) (value : Measured Float) :
    (sink.push value).samples = sink.samples + 1 := by
  cases sink with
  | counter events total => rfl
  | trend values => rfl
  | rate trues falses =>
    cases held : value.holds <;> simp [push, samples, held] <;> omega

theorem Sink.samples_aggregate (sink : Sink Float) (elapsed : Duration) :
    (sink.aggregate elapsed).samples = sink.samples := by
  cases sink with
  | counter events total => rfl
  | rate trues falses => rfl
  | trend values => exact (List.mergeSort_perm ..).length_eq

/-- A sample of a metric that every run has, of its kind and with a value that can be recorded. -/
structure Sample.Standard (sample : Sample Float) : Prop where
  known : BuiltIn.all.lookup sample.metric = some sample.kind
  recordable : sample.value.isUnrecordable = false

/-- The metric that the text of a selector begins with. -/
def Selector.stem (key : String) : String :=
  String.ofList (key.toList.takeWhile fun c => c ≠ '\x7b')

theorem Selector.stem_plain {name : String} (plain : Plain name) : stem name = name := by
  have whole : name.toList.takeWhile (fun c => c ≠ '\x7b') = name.toList := by
    refine List.takeWhile_eq_self_iff.mpr fun c member => ?_
    rw [decide_eq_true_iff]
    rintro rfl
    exact plain member
  unfold stem
  rw [whole, String.ofList_toList]

theorem Selector.stem_show {selector : Selector} (plain : Plain selector.name) :
    stem selector.show = selector.name := by
  cases tagged : selector.isSubmetric with
  | false => rw [show_untagged tagged, stem_plain plain]
  | true =>
    have start : selector.show.toList.takeWhile (fun c => c ≠ '\x7b') = selector.name.toList := by
      rw [show_toList tagged, List.takeWhile_append_of_pos, List.takeWhile_cons_of_neg,
        List.append_nil]
      · simp
      · intro c member
        rw [decide_eq_true_iff]
        rintro rfl
        exact plain member
    unfold stem
    rw [start, String.ofList_toList]

namespace Recorder

variable {recorder : Recorder Float} {sample : Sample Float}

/-- **A recorder that runs record into**: whatever is kept under a text has the kind of the metric
that the text begins with. -/
structure Standard (recorder : Recorder Float) : Prop where
  unsealed : recorder.isSealed = false
  tagged : ∀ selector ∈ recorder.submetrics, selector.isSubmetric = true
  kinds : ∀ key sink, recorder.sinks.get? key = some sink →
    BuiltIn.all.lookup (stem key) = some sink.kind

/-- The texts under which a sample is kept begin with its metric. -/
theorem stem_of_mem_keysOf {α : Type} [Scalar α] {recorder : Recorder α} {sample : Sample α}
    (plain : Plain sample.metric) {key : String} (member : key ∈ recorder.keysOf sample) :
    stem key = sample.metric := by
  rcases List.mem_cons.mp member with rfl | submetric
  · exact stem_plain plain
  · obtain ⟨selector, inside, rfl⟩ := List.mem_map.mp submetric
    have name := name_of_matches (List.mem_filter.mp inside).2
    rw [← name] at plain
    rw [stem_show plain, name]

theorem Standard.admits (standard : recorder.Standard) (known : sample.Standard) :
    ∀ key ∈ recorder.keysOf sample, recorder.Admits sample.kind key := by
  intro key member sink found
  have kind := standard.kinds key sink found
  rw [stem_of_mem_keysOf (plain_of_lookup known.known) member, known.known] at kind
  exact (Option.some.inj kind).symm

theorem kinds_addingAll {keys : List String} {kind : MetricKind} (value : Measured Float)
    (kinds : ∀ key sink, recorder.sinks.get? key = some sink →
      BuiltIn.all.lookup (stem key) = some sink.kind)
    (stems : ∀ key ∈ keys, BuiltIn.all.lookup (stem key) = some kind) :
    ∀ key sink, (recorder.addingAll kind value keys).sinks.get? key = some sink →
      BuiltIn.all.lookup (stem key) = some sink.kind := by
  induction keys generalizing recorder with
  | nil => exact kinds
  | cons first rest ih =>
    refine @ih (recorder.adding kind value first) ?_ fun key member =>
      stems key (List.mem_cons_of_mem _ member)
    intro key sink found
    rw [get?_adding] at found
    by_cases same : key = first
    · subst same
      rw [if_pos rfl] at found
      rw [← Option.some.inj found, stems key List.mem_cons_self]
      refine congrArg some (Sink.kind_added value fun other there => ?_).symm
      have kept := kinds key other there
      rw [stems key List.mem_cons_self] at kept
      exact (Option.some.inj kept).symm
    · rw [if_neg same] at found
      exact kinds key sink found

theorem checks_tally {other : Recorder Float} (same : other.checks = recorder.checks)
    (sample : Sample Float) : (other.tally sample).checks = (recorder.tally sample).checks := by
  unfold tally
  rw [same]
  split
  · exact same
  · rfl

/-- **A sample of a run is taken**: it adds one to its metric, is counted by name if it is a check,
and changes nothing else under a plain name. -/
theorem record_standard (standard : recorder.Standard) (known : sample.Standard) :
    ∃ after, recorder.record sample = (after, none) ∧ after.Standard ∧
      after.dropped = recorder.dropped ∧ after.checks = (recorder.tally sample).checks ∧
      ∀ name, Plain name → after.sinks.get? name =
        if name = sample.metric then
          some (.added (recorder.sinks.get? name) sample.kind sample.value)
        else recorder.sinks.get? name := by
  have plain : Plain sample.metric := plain_of_lookup known.known
  obtain ⟨submetrics, sealing, dropping, checks⟩ :=
    addingAll_frame recorder sample.kind sample.value (recorder.keysOf sample)
  obtain ⟨sinks, submetrics', sealing', dropping'⟩ := tally_frame
    (recorder.addingAll sample.kind sample.value (recorder.keysOf sample)) sample
  refine ⟨_, record_admitted standard.unsealed known.recordable (standard.admits known), ?_, ?_,
    checks_tally checks sample, ?_⟩
  · refine ⟨?_, ?_, ?_⟩
    · unfold isSealed
      rw [sealing', sealing]
      exact standard.unsealed
    · rw [submetrics', submetrics]
      exact standard.tagged
    · rw [sinks]
      refine kinds_addingAll sample.value standard.kinds fun key member => ?_
      rw [stem_of_mem_keysOf (plain_of_lookup known.known) member]
      exact known.known
  · rw [dropping', dropping]
  · intro name plainName
    -- The texts of submetrics are not plain, so only the metric itself matters.
    have absent : ∀ other, Plain other → other ∉ (recorder.submetrics.filter fun selector =>
        selector.matches sample.metric sample.tags).map Selector.show := by
      intro other plainOther member
      obtain ⟨selector, inside, rfl⟩ := List.mem_map.mp member
      exact not_plain_show (standard.tagged selector (List.mem_filter.mp inside).1) plainOther
    rw [sinks]
    unfold keysOf
    show ((recorder.adding sample.kind sample.value sample.metric).addingAll _ _ _).sinks.get? name
      = _
    rw [get?_addingAll_count, List.count_eq_zero_of_not_mem (absent name plainName),
      Function.iterate_zero_apply, get?_adding]
    by_cases same : name = sample.metric
    · rw [if_pos same, if_pos same, same]
    · rw [if_neg same, if_neg same]

end Recorder

end LoadTest
