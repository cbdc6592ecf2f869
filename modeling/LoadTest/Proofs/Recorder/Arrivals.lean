/-
**What arrives at a metric of every run.**

A metric that every run has keeps its kind, whatever else is recorded. A sample arrives there if it
names the metric, is of its kind and can be recorded; then it adds one, also where a submetric
refuses it afterwards. Any other sample leaves the metric as it is, since no submetric has the name
of a metric.

* `Sample.arrivesAt`: whether a sample arrives at a metric;
* `Recorder.Keeps`: a recorder that still has a metric of every run;
* `Recorder.Keeps.recordAll`: many samples add as many as arrive.
-/

import LoadTest.Proofs.Recorder.Counts
import LoadTest.Proofs.Recorder.Kinds

namespace LoadTest

open Selector

/-- Whether a recorder counts the sample for a metric of every run. -/
def Sample.arrivesAt (metric : String) (sample : Sample Float) : Bool :=
  sample.metric = metric && BuiltIn.all.lookup metric = some sample.kind &&
    !sample.value.isUnrecordable

theorem Sample.Standard.arrivesAt {sample : Sample Float} (standard : sample.Standard)
    (metric : String) : sample.arrivesAt metric = decide (sample.metric = metric) := by
  unfold Sample.arrivesAt
  by_cases same : sample.metric = metric
  · rw [← same, standard.known, standard.recordable]
    simp
  · simp [same]

namespace Recorder

variable {recorder : Recorder Float} {metric : String}

/-- **The recorder is not sealed and still has a metric of every run**, of its kind. -/
structure Keeps (recorder : Recorder Float) (metric : String) : Prop where
  unsealed : recorder.isSealed = false
  tagged : ∀ selector ∈ recorder.submetrics, selector.isSubmetric = true
  plain : Plain metric
  known : ∃ kind, BuiltIn.all.lookup metric = some kind ∧ recorder.kindOf? metric = some kind

theorem keeps_new (selectors : List Selector) (listed : metric ∈ BuiltIn.all.map Prod.fst) :
    (Recorder.new selectors : Recorder Float).Keeps metric := by
  have every : ∀ name ∈ BuiltIn.all.map Prod.fst, (BuiltIn.all.lookup name).isSome := by decide
  obtain ⟨kind, found⟩ := Option.isSome_iff_exists.mp (every metric listed)
  exact ⟨rfl, fun selector member => (mem_submetricsOf.mp member).2, plain_of_lookup found,
    kind, found, (kindOf?_new selectors metric).trans found⟩

/-- Among some of the first keys of a sample a metric stands only as the first one. -/
theorem count_served (keeps : recorder.Keeps metric) {sample : Sample Float}
    {served waiting : List String} (split : recorder.keysOf sample = served ++ waiting) :
    served.count metric = if sample.metric = metric ∧ served ≠ [] then 1 else 0 := by
  have absent : metric ∉ (recorder.submetrics.filter fun selector =>
      selector.matches sample.metric sample.tags).map Selector.show := by
    intro member
    obtain ⟨selector, inside, rfl⟩ := List.mem_map.mp member
    exact not_plain_show (keeps.tagged selector (List.mem_filter.mp inside).1) keeps.plain
  cases served with
  | nil => simp
  | cons first rest =>
    obtain ⟨rfl, others⟩ := List.cons.inj split
    have none : rest.count metric = 0 := by
      refine List.count_eq_zero.mpr fun member => absent ?_
      rw [others]
      exact List.mem_append_left _ member
    rw [List.count_cons, none]
    simp

/-- A metric that gets so many values has as many samples more. -/
theorem samples_iterate (kind : MetricKind) (value : Measured Float) (count : ℕ)
    (sink : Sink Float) :
    ((fun sink => some (Sink.added sink kind value))^[count] (some sink)).map Sink.samples =
      some (sink.samples + count) := by
  induction count generalizing sink with
  | zero => rfl
  | succ count ih =>
    rw [Function.iterate_succ_apply]
    show ((fun sink => some (Sink.added sink kind value))^[count] (some (sink.push value))).map
      Sink.samples = _
    rw [ih, Sink.samples_push, Nat.add_assoc, Nat.add_comm 1]

/-- Keys that all take a value keep a metric; it gets a value for each time that it is named. -/
theorem Keeps.addingAll (keeps : recorder.Keeps metric) {kind : MetricKind}
    {keys : List String} (admitted : ∀ key ∈ keys, recorder.Admits kind key)
    (value : Measured Float) :
    (recorder.addingAll kind value keys).Keeps metric ∧
      (recorder.addingAll kind value keys).samplesOf metric =
        (recorder.samplesOf metric).map (· + keys.count metric) := by
  obtain ⟨registered, known, found⟩ := keeps.known
  obtain ⟨submetrics, sealing, -, -⟩ := addingAll_frame recorder kind value keys
  refine ⟨⟨?_, ?_, keeps.plain, registered, known, ?_⟩, ?_⟩
  · unfold isSealed
    rw [sealing]
    exact keeps.unsealed
  · rw [submetrics]
    exact keeps.tagged
  · rw [kindOf?_addingAll admitted]
    by_cases inside : metric ∈ keys
    · rw [if_pos inside, admits_iff.mp (admitted metric inside) registered found]
    · rw [if_neg inside, found]
  · obtain ⟨sink, there, -⟩ := Option.map_eq_some_iff.mp found
    unfold samplesOf
    rw [get?_addingAll_count, there, samples_iterate]
    rfl

theorem Keeps.tally (keeps : recorder.Keeps metric) (sample : Sample Float) :
    (recorder.tally sample).Keeps metric ∧
      (recorder.tally sample).samplesOf metric = recorder.samplesOf metric := by
  obtain ⟨sinks, submetrics, sealing, -⟩ := tally_frame recorder sample
  refine ⟨⟨?_, ?_, keeps.plain, ?_⟩, ?_⟩
  · unfold isSealed
    rw [sealing]
    exact keeps.unsealed
  · rw [submetrics]
    exact keeps.tagged
  · simp only [kindOf?_tally]
    exact keeps.known
  · unfold samplesOf
    rw [sinks]

/-- **A sample adds one to a metric of every run if it arrives there**, whatever becomes of it at
the submetrics. -/
theorem Keeps.record (keeps : recorder.Keeps metric) (sample : Sample Float) :
    (recorder.record sample).1.Keeps metric ∧
      (recorder.record sample).1.samplesOf metric =
        (recorder.samplesOf metric).map (· + (sample.arrivesAt metric).toNat) := by
  obtain ⟨registered, known, found⟩ := keeps.known
  -- A sample of the metric that is not refused at once has the kind of the metric.
  have arrives : sample.value.isUnrecordable = false →
      (sample.metric = metric → recorder.Admits sample.kind metric) →
      (sample.arrivesAt metric).toNat = if sample.metric = metric then 1 else 0 := by
    intro recordable admitted
    unfold Sample.arrivesAt
    by_cases same : sample.metric = metric
    · rw [known, admits_iff.mp (admitted same) registered found, recordable]
      simp [same]
    · simp [same]
  have unchanged : (sample.arrivesAt metric) = false → recorder.samplesOf metric =
      (recorder.samplesOf metric).map (· + (sample.arrivesAt metric).toNat) := by
    intro elsewhere
    rw [elsewhere]
    simp
  generalize result : recorder.record sample = after
  cases result ▸ record_outcome recorder sample with
  | dropped closed => exact absurd (keeps.unsealed.symm.trans closed) Bool.false_ne_true
  | nonFinite unsealed unrecordable =>
    refine ⟨keeps, unchanged ?_⟩
    unfold Sample.arrivesAt
    simp [unrecordable]
  | taken unsealed recordable admitted =>
    obtain ⟨keepsAll, added⟩ := keeps.addingAll admitted sample.value
    obtain ⟨keepsTally, same⟩ := keepsAll.tally sample
    have listed : recorder.keysOf sample ≠ [] := List.cons_ne_nil _ _
    refine ⟨keepsTally, ?_⟩
    rw [same, added, count_served keeps (List.append_nil _).symm, arrives recordable]
    · simp [listed]
    · rintro rfl
      exact admitted _ List.mem_cons_self
  | @mismatch unsealed recordable served waiting key kind split admitted there other =>
    obtain ⟨keepsAll, added⟩ := keeps.addingAll admitted sample.value
    refine ⟨keepsAll, ?_⟩
    rw [added, count_served keeps split]
    by_cases first : served = []
    · -- The metric of the sample itself has another kind.
      subst first
      have atOnce : sample.metric = key := (List.cons.inj split).1
      have elsewhere : sample.arrivesAt metric = false := by
        unfold Sample.arrivesAt
        by_cases same : sample.metric = metric
        · rw [← atOnce, same, found] at there
          have differs : registered ≠ sample.kind := Option.some.inj there ▸ other
          rw [known]
          simp [differs]
        · simp [same]
      rw [elsewhere]
      simp
    · rw [arrives recordable]
      · simp [first]
      · rintro rfl
        obtain ⟨one, rest, rfl⟩ := List.exists_cons_of_ne_nil first
        have metric : sample.metric = one := (List.cons.inj split).1
        exact metric ▸ admitted one List.mem_cons_self

/-- **Many samples add as many to a metric of every run as arrive there.** -/
theorem Keeps.recordAll (keeps : recorder.Keeps metric) (samples : List (Sample Float)) :
    (recorder.recordAll samples).Keeps metric ∧
      (recorder.recordAll samples).samplesOf metric =
        (recorder.samplesOf metric).map (· + samples.countP (Sample.arrivesAt metric)) := by
  induction samples generalizing recorder with
  | nil => exact ⟨keeps, by simp [Recorder.recordAll]⟩
  | cons sample rest ih =>
    obtain ⟨keepsOne, one⟩ := keeps.record sample
    obtain ⟨keepsRest, more⟩ := ih keepsOne
    refine ⟨keepsRest, ?_⟩
    show ((recorder.record sample).1.recordAll rest).samplesOf metric = _
    rw [more, one, Option.map_map, List.countP_cons]
    congr 1
    funext count
    cases sample.arrivesAt metric with
    | false => simp
    | true =>
      simp
      omega

end Recorder

end LoadTest
