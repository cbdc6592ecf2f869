/-
**What the samples of a run add up to.**

A run records three samples for an iteration that ended, five for a request whose outcome is known,
and one for each check. The recorder therefore has as many samples of each of the three metrics as
iterations ended, as many of each of the five as requests were settled, and its checks by name are
those of the metric of checks.

* `Recorder.Counts`: the recorder after so many iterations and requests;
* `Recorder.Counts.ended`, `.settled`, `.checked`: one more of each;
* `Recorder.Counts.iterations_eq`: the running total of iterations, read as a whole number.
-/

import LoadTest.Proofs.Duration.Seconds
import LoadTest.Proofs.Metric.Percentile
import LoadTest.Proofs.Recorder.Standard
import LoadTest.Run.User

namespace LoadTest

open Rounding Selector

/-! ### Finite values -/

theorem Rounding.Denotes.isFinite {x : Float} {q : ℚ} (denotes : Denotes x q) :
    x.isFinite = true := by
  show x.toModel.unpack.isFinite = true
  have canonical := denotes.canonical
  cases unpacked : x.toModel.unpack with
  | infinity _ =>
    rw [unpacked] at canonical
    exact canonical.elim
  | notANumber =>
    rw [unpacked] at canonical
    exact canonical.elim
  | zero _ => rfl
  | finite _ _ _ _ => rfl

theorem recordable_number {x : Float} (finite : x.isFinite = true) :
    (Measured.number x).isUnrecordable = false := by
  show (!x.isFinite) = false
  rw [finite, Bool.not_true]

theorem toMillis_isFinite (d : Duration) : d.toMillis.isFinite = true := by
  have thousand := denotes_exact (n := 1000) (by decide)
  have nonneg : 0 ≤ d.nearSeconds * 1000 := by
    have seconds := Duration.nearSeconds_nonneg d
    positivity
  have bound : d.nearSeconds * 1000 ≤ 2 ^ (65 : ℤ) * 2 ^ (10 : ℤ) :=
    mul_le_mul (Duration.nearSeconds_le d) (by norm_num) (by norm_num) (by positivity)
  have wide : (2 : ℚ) ^ (65 : ℤ) * 2 ^ (10 : ℤ) ≤ 2 ^ (128 : ℤ) := by
    rw [← zpow_add₀ two_ne_zero]
    exact zpow_le_zpow_right₀ one_le_two (by norm_num)
  have range : InRange (d.nearSeconds * (1000 : ℕ)) := by
    apply inRange_of_le
    push_cast
    rw [abs_of_nonneg nonneg]
    exact bound.trans wide
  exact ((Duration.denotes_toScalar d).mul thousand range).isFinite

theorem ofNat_isFinite {n : ℕ} (word : n ≤ Decimal.maxWord) : (Float.ofNat n).isFinite = true :=
  (denotes_natCast (word.trans (by decide))).isFinite

/-! ### Samples of a run -/

theorem Sample.Standard.stamped {sample : Sample Float} (standard : sample.Standard)
    (clock : Duration) (tags : Tags) : ({ sample with offset := clock }.withTags tags).Standard :=
  ⟨standard.known, standard.recordable⟩

theorem standard_stamped {samples : List (Sample Float)}
    (known : ∀ sample ∈ samples, sample.Standard) (clock : Duration) (tags : Tags) :
    ∀ sample ∈ samples.map fun sample => { sample with offset := clock }.withTags tags,
      sample.Standard := by
  intro sample member
  obtain ⟨plain, inside, rfl⟩ := List.mem_map.mp member
  exact (known plain inside).stamped clock tags

theorem Sample.standard_counter {metric : String} {value : Float}
    (known : BuiltIn.all.lookup metric = some .counter) (finite : value.isFinite = true) :
    (Sample.counter metric value).Standard := ⟨known, recordable_number finite⟩

theorem Sample.standard_trend {metric : String} {value : Float}
    (known : BuiltIn.all.lookup metric = some .trend) (finite : value.isFinite = true) :
    (Sample.trend metric value).Standard := ⟨known, recordable_number finite⟩

theorem Sample.standard_rate {metric : String} (known : BuiltIn.all.lookup metric = some .rate)
    (value : Bool) : (Sample.rate metric value).Standard := ⟨known, rfl⟩

theorem one_isFinite : (1 : Float).isFinite = true := by
  have word : 1 ≤ Decimal.maxWord := by decide
  exact ofNat_isFinite word

theorem standard_iterationSamples (took : Duration) (failed : Bool) :
    ∀ sample ∈ iterationSamples took failed, sample.Standard := by
  intro sample member
  unfold iterationSamples at member
  rcases List.mem_cons.mp member with rfl | member
  · exact Sample.standard_counter (by decide) one_isFinite
  rcases List.mem_cons.mp member with rfl | member
  · exact Sample.standard_trend (by decide) (toMillis_isFinite took)
  obtain rfl := List.mem_singleton.mp member
  exact Sample.standard_rate (by decide) failed

theorem standard_samples (request : Request) (reply : Reply) :
    ∀ sample ∈ request.samples reply, sample.Standard := by
  intro sample member
  unfold Request.samples at member
  obtain ⟨plain, inside, rfl⟩ := List.mem_map.mp member
  suffices plain.Standard from ⟨this.known, this.recordable⟩
  have sent : request.bodySize ≤ Decimal.maxWord := Nat.min_le_right ..
  have received : reply.received ≤ Decimal.maxWord := by
    cases reply with
    | response status headers body took => exact Nat.min_le_right ..
    | lost took => exact Nat.zero_le _
  rcases List.mem_cons.mp inside with rfl | inside
  · exact Sample.standard_counter (by decide) one_isFinite
  rcases List.mem_cons.mp inside with rfl | inside
  · exact Sample.standard_trend (by decide) (toMillis_isFinite _)
  rcases List.mem_cons.mp inside with rfl | inside
  · exact Sample.standard_rate (by decide) _
  rcases List.mem_cons.mp inside with rfl | inside
  · exact Sample.standard_counter (by decide) (ofNat_isFinite sent)
  obtain rfl := List.mem_singleton.mp inside
  exact Sample.standard_counter (by decide) (ofNat_isFinite received)

/-! ### Many samples -/

namespace Recorder

variable {recorder : Recorder Float}

/-- How many samples a metric has, if it is known. -/
def samplesOf (recorder : Recorder Float) (metric : String) : Option ℕ :=
  (recorder.sinks.get? metric).map Sink.samples

theorem samples_grown (samples : List (Sample Float)) {sink : Option (Sink Float)} {count : ℕ}
    (counted : sink.map Sink.samples = some count) :
    (samples.foldl grown sink).map Sink.samples = some (count + samples.length) := by
  induction samples generalizing sink count with
  | nil => exact counted
  | cons sample rest ih =>
    have one : (grown sink sample).map Sink.samples = some (count + 1) := by
      obtain ⟨found, rfl, rfl⟩ := Option.map_eq_some_iff.mp counted
      exact congrArg some (Sink.samples_push found sample.value)
    rw [List.foldl_cons, ih one, List.length_cons, Nat.add_assoc, Nat.add_comm 1]

theorem tally_of_ne {sample : Sample Float} (other : sample.metric ≠ BuiltIn.checks) :
    recorder.tally sample = recorder := by
  unfold tally
  rw [if_neg other]

/-- Samples of a run that are no checks add to their own metrics. -/
theorem recordAll_standard {samples : List (Sample Float)} (standard : recorder.Standard)
    (known : ∀ sample ∈ samples, sample.Standard)
    (others : ∀ sample ∈ samples, sample.metric ≠ BuiltIn.checks) :
    (recorder.recordAll samples).Standard ∧
      (recorder.recordAll samples).dropped = recorder.dropped ∧
      (recorder.recordAll samples).checks = recorder.checks ∧
      ∀ name, Plain name → (recorder.recordAll samples).sinks.get? name =
        (samples.filter fun sample => sample.metric = name).foldl grown
          (recorder.sinks.get? name) := by
  induction samples generalizing recorder with
  | nil => exact ⟨standard, rfl, rfl, fun name _ => rfl⟩
  | cons sample rest ih =>
    obtain ⟨after, recorded, standard', dropped, checks, sinks⟩ :=
      record_standard standard (known sample List.mem_cons_self)
    obtain ⟨last, dropped', checks', sinks'⟩ := ih standard'
      (fun other member => known other (List.mem_cons_of_mem _ member))
      fun other member => others other (List.mem_cons_of_mem _ member)
    have all : recorder.recordAll (sample :: rest) = after.recordAll rest := by
      show recordAll (recorder.record sample).1 rest = _
      rw [recorded]
    rw [all]
    refine ⟨last, dropped'.trans dropped, ?_, fun name plain => ?_⟩
    · rw [checks', checks, tally_of_ne (others sample List.mem_cons_self)]
    · rw [sinks' name plain, sinks name plain]
      by_cases same : sample.metric = name
      · rw [if_pos same.symm, List.filter_cons, if_pos (decide_eq_true same)]
        rfl
      · rw [if_neg (Ne.symm same), List.filter_cons, if_neg (by simpa using same)]

theorem length_filter_metric (samples : List (Sample Float)) (name : String) :
    (samples.filter fun sample => sample.metric = name).length =
      (samples.map Sample.metric).count name := by
  rw [List.count, List.countP_map, List.countP_eq_length_filter]
  congr 2

/-! ### The counts of a run -/

/-- The metrics of an iteration that ended. -/
def endedMetrics : List String :=
  [BuiltIn.iterations, BuiltIn.iterationDuration, BuiltIn.iterationFailed]

/-- The metrics of a request whose outcome is known. -/
def settledMetrics : List String :=
  [BuiltIn.requests, BuiltIn.requestDuration, BuiltIn.requestFailed, BuiltIn.dataSent,
    BuiltIn.dataReceived]

/-- The running total of so many ones, each sum being rounded. -/
def ones : ℕ → Float
  | 0 => Float.ofNat 0
  | count + 1 => ones count + 1

/-- **The recorder after so many iterations that ended and requests that were settled**, with any
number of checks. -/
structure Counts (recorder : Recorder Float) (finished answered : ℕ) : Prop where
  standard : recorder.Standard
  kept : recorder.dropped = 0
  iterations : ∀ metric ∈ endedMetrics, recorder.samplesOf metric = some finished
  running : recorder.sinks.get? BuiltIn.iterations = some (.counter finished (ones finished))
  requests : ∀ metric ∈ settledMetrics, recorder.samplesOf metric = some answered
  checks : recorder.sinks.get? BuiltIn.checks = some (.rate (recorder.checks.sum CheckTally.passes)
    (recorder.checks.sum CheckTally.fails))

variable {finished answered : ℕ}

theorem plain_metrics : ∀ metric ∈ endedMetrics ++ settledMetrics, Plain metric := by decide

/-- Samples of a run that are no checks add to listed metrics as often as each of those occurs. -/
theorem samplesOf_recordAll {samples : List (Sample Float)} {names listed : List String}
    (standard : recorder.Standard) (known : ∀ sample ∈ samples, sample.Standard)
    (others : ∀ sample ∈ samples, sample.metric ≠ BuiltIn.checks)
    (metrics : samples.map Sample.metric = names) (plain : ∀ metric ∈ listed, Plain metric)
    {before more : ℕ} (each : ∀ metric ∈ listed, names.count metric = more)
    (counted : ∀ metric ∈ listed, recorder.samplesOf metric = some before) :
    ∀ metric ∈ listed, (recorder.recordAll samples).samplesOf metric = some (before + more) := by
  intro metric member
  obtain ⟨-, -, -, sinks⟩ := recordAll_standard standard known others
  unfold samplesOf
  rw [sinks metric (plain metric member), samples_grown _ (counted metric member),
    length_filter_metric, metrics, each metric member]

theorem get?_recordAll {samples : List (Sample Float)} (standard : recorder.Standard)
    (known : ∀ sample ∈ samples, sample.Standard)
    (others : ∀ sample ∈ samples, sample.metric ≠ BuiltIn.checks) {name : String}
    (plain : Plain name) (absent : name ∉ samples.map Sample.metric) :
    (recorder.recordAll samples).sinks.get? name = recorder.sinks.get? name := by
  obtain ⟨-, -, -, sinks⟩ := recordAll_standard standard known others
  rw [← List.count_eq_zero, ← length_filter_metric, List.length_eq_zero_iff] at absent
  rw [sinks name plain, absent]
  rfl

/-- Samples of a run that are no checks keep the checks as they are. -/
theorem checks_recordAll {samples : List (Sample Float)} {names : List String}
    (counts : recorder.Counts finished answered) (known : ∀ sample ∈ samples, sample.Standard)
    (metrics : samples.map Sample.metric = names) (absent : BuiltIn.checks ∉ names) :
    (∀ sample ∈ samples, sample.metric ≠ BuiltIn.checks) ∧
      (recorder.recordAll samples).sinks.get? BuiltIn.checks =
        some (.rate ((recorder.recordAll samples).checks.sum CheckTally.passes)
          ((recorder.recordAll samples).checks.sum CheckTally.fails)) := by
  rw [← metrics] at absent
  have others : ∀ sample ∈ samples, sample.metric ≠ BuiltIn.checks := by
    intro sample member same
    apply absent
    rw [← same]
    exact List.mem_map_of_mem member
  have sink := get?_recordAll counts.standard known others (by decide) absent
  obtain ⟨-, -, checks, -⟩ := recordAll_standard counts.standard known others
  rw [checks, sink]
  exact ⟨others, counts.checks⟩

/-- **One more request that was settled.** -/
theorem Counts.settled (counts : recorder.Counts finished answered) {samples : List (Sample Float)}
    (known : ∀ sample ∈ samples, sample.Standard)
    (metrics : samples.map Sample.metric = settledMetrics) :
    (recorder.recordAll samples).Counts finished (answered + 1) := by
  obtain ⟨others, checks⟩ := checks_recordAll counts known metrics (by decide)
  obtain ⟨standard, dropped, -, -⟩ := recordAll_standard counts.standard known others
  have kept := @samplesOf_recordAll recorder samples _ endedMetrics counts.standard known others
    metrics (by decide) finished 0 (by decide) counts.iterations
  have grown := @samplesOf_recordAll recorder samples _ settledMetrics counts.standard known others
    metrics (by decide) answered 1 (by decide) counts.requests
  have apart : BuiltIn.iterations ∉ samples.map Sample.metric := by
    rw [metrics]
    decide
  have total := get?_recordAll counts.standard known others (by decide) apart
  exact ⟨standard, dropped.trans counts.kept, kept, total.trans counts.running, grown, checks⟩

/-- **One more iteration that ended.** -/
theorem Counts.ended (counts : recorder.Counts finished answered) {first : Sample Float}
    {rest : List (Sample Float)} (known : ∀ sample ∈ first :: rest, sample.Standard)
    (metrics : (first :: rest).map Sample.metric = endedMetrics) (one : first.value = .number 1) :
    (recorder.recordAll (first :: rest)).Counts (finished + 1) answered := by
  obtain ⟨others, checks⟩ := checks_recordAll counts known metrics (by decide)
  obtain ⟨standard, dropped, -, sinks⟩ := recordAll_standard counts.standard known others
  have grown := @samplesOf_recordAll recorder _ _ endedMetrics counts.standard known others
    metrics (by decide) finished 1 (by decide) counts.iterations
  have kept := @samplesOf_recordAll recorder _ _ settledMetrics counts.standard known others
    metrics (by decide) answered 0 (by decide) counts.requests
  refine ⟨standard, dropped.trans counts.kept, grown, ?_, kept, checks⟩
  obtain ⟨isFirst, areRest⟩ := List.cons.inj metrics
  have noneLeft : rest.filter (fun sample => sample.metric = BuiltIn.iterations) = [] := by
    rw [← List.length_eq_zero_iff, length_filter_metric, areRest]
    decide
  rw [sinks _ (by decide), List.filter_cons, if_pos (decide_eq_true isFirst), noneLeft,
    counts.running]
  show some (Sink.push (.counter finished (ones finished)) first.value) = _
  rw [one]
  rfl

/-! ### Checks -/

theorem sum_add (checks : Table CheckTally) (name : String) (passed : Bool) :
    (checks.insert name (((checks.get? name).getD .zero).add passed)).sum CheckTally.passes =
        checks.sum CheckTally.passes + (if passed then 1 else 0) ∧
      (checks.insert name (((checks.get? name).getD .zero).add passed)).sum CheckTally.fails =
        checks.sum CheckTally.fails + (if passed then 0 else 1) := by
  have passes := checks.sum_insert CheckTally.passes name
    (((checks.get? name).getD .zero).add passed)
  have fails := checks.sum_insert CheckTally.fails name
    (((checks.get? name).getD .zero).add passed)
  cases found : checks.get? name with
  | none => cases passed <;> simp_all [CheckTally.add, CheckTally.zero]
  | some tally => cases passed <;> simp_all [CheckTally.add] <;> omega

/-- **One more check**, counted under its name. -/
theorem Counts.checked (counts : recorder.Counts finished answered) {sample : Sample Float}
    (metric : sample.metric = BuiltIn.checks) (kind : sample.kind = .rate) {passed : Bool}
    (value : sample.value = .flag passed) {name : String}
    (named : sample.tags.get? "check" = some name) :
    ∃ after, recorder.record sample = (after, none) ∧ after.Counts finished answered := by
  have known : sample.Standard := by
    refine ⟨?_, ?_⟩
    · rw [metric, kind]
      decide
    · rw [value]
      rfl
  obtain ⟨after, recorded, standard, dropped, checks, sinks⟩ :=
    record_standard counts.standard known
  have apart : ∀ metric ∈ endedMetrics ++ settledMetrics, metric ≠ BuiltIn.checks := by decide
  have unchanged : ∀ name ∈ endedMetrics ++ settledMetrics,
      after.sinks.get? name = recorder.sinks.get? name := by
    intro name member
    rw [sinks name (plain_metrics name member), if_neg]
    rw [metric]
    exact apart name member
  have sink : after.sinks.get? BuiltIn.checks =
      some (.push (.rate (recorder.checks.sum CheckTally.passes)
        (recorder.checks.sum CheckTally.fails)) (.flag passed)) := by
    rw [sinks _ (by decide), if_pos metric.symm, kind, value, counts.checks]
    rfl
  have tally : after.checks = recorder.checks.insert name
      (((recorder.checks.get? name).getD .zero).add passed) := by
    rw [checks]
    unfold Recorder.tally
    rw [if_pos metric, named, value]
    rfl
  obtain ⟨passes, fails⟩ := sum_add recorder.checks name passed
  refine ⟨after, recorded, standard, dropped.trans counts.kept, fun metric member => ?_, ?_,
    fun metric member => ?_, ?_⟩
  · unfold samplesOf
    rw [unchanged metric (List.mem_append_left _ member)]
    exact counts.iterations metric member
  · rw [unchanged BuiltIn.iterations (by decide)]
    exact counts.running
  · unfold samplesOf
    rw [unchanged metric (List.mem_append_right _ member)]
    exact counts.requests metric member
  · rw [sink, tally, passes, fails]
    cases passed with
    | true => rfl
    | false => rfl

/-! ### The running total -/

theorem denotes_unique {x : Float} {p q : ℚ} (first : Denotes x p) (second : Denotes x q) : p = q :=
  first.value.symm.trans second.value

theorem denotes_add_one {x : Float} {count : ℕ} (denotes : Denotes x count)
    (small : count ≤ 2 ^ 53) : Denotes (x + 1) (near (count + 1 : ℕ)) := by
  have one := denotes_exact (n := 1) (by decide)
  have bound : ((count + 1 : ℕ) : ℚ) ≤ 2 ^ (54 : ℤ) := by
    have whole : count + 1 ≤ 2 ^ 54 := by omega
    exact_mod_cast whole
  have wide : (2 : ℚ) ^ (54 : ℤ) ≤ 2 ^ (128 : ℤ) := zpow_le_zpow_right₀ one_le_two (by norm_num)
  have range : InRange ((count : ℚ) + (1 : ℕ)) := by
    apply inRange_of_le
    rw [← Nat.cast_add, abs_of_nonneg (Nat.cast_nonneg _)]
    exact bound.trans wide
  have sum := denotes.add one range
  rw [← Nat.cast_add] at sum
  exact sum

/-- The first whole number that is no float is rounded down. -/
theorem near_past_exact : near (2 ^ 53 + 1 : ℕ) = (2 ^ 53 : ℕ) := by
  have exactly := denotes_exact (n := 2 ^ 53) le_rfl
  have next := denotes_add_one exactly le_rfl
  have same : (Scalar.ofNat (2 ^ 53) : Float) + 1 = Scalar.ofNat (2 ^ 53) := by decide +kernel
  rw [same] at next
  exact denotes_unique next exactly

/-- The total of ones is exact up to `2 ^ 53` and stays there. -/
theorem denotes_ones (count : ℕ) : Denotes (ones count) (min count (2 ^ 53) : ℕ) := by
  induction count with
  | zero => exact denotes_exact (n := 0) (by decide)
  | succ count ih =>
    have next := denotes_add_one ih (Nat.min_le_right ..)
    by_cases small : count < 2 ^ 53
    · have kept : min count (2 ^ 53) = count := Nat.min_eq_left small.le
      have more : min (count + 1) (2 ^ 53) = count + 1 := Nat.min_eq_left small
      rw [kept, near_natCast small] at next
      rw [more]
      exact next
    · have kept : min count (2 ^ 53) = 2 ^ 53 := Nat.min_eq_right (not_lt.mp small)
      have more : min (count + 1) (2 ^ 53) = 2 ^ 53 := by omega
      rw [kept, near_past_exact] at next
      rw [more]
      exact next

/-- **The running total of iterations as a whole number.** -/
theorem Counts.iterations_eq (counts : recorder.Counts finished answered) :
    Decimal.floorWord (recorder.total BuiltIn.iterations) = min finished (2 ^ 53) := by
  have word : min finished (2 ^ 53) ≤ Decimal.maxWord :=
    (Nat.min_le_right ..).trans (by decide)
  have total : recorder.total BuiltIn.iterations = ones finished := by
    unfold Recorder.total
    rw [counts.running]
    rfl
  rw [total, (denotes_ones finished).floorWord, Nat.floor_natCast, Nat.min_eq_left word]

/-! ### The beginning -/

theorem counts_new (selectors : List Selector) : (Recorder.new selectors).Counts 0 0 where
  standard := by
    refine ⟨rfl, fun selector member => (mem_submetricsOf.mp member).2, fun key sink found => ?_⟩
    rw [get?_new] at found
    obtain ⟨kind, known, rfl⟩ := Option.map_eq_some_iff.mp found
    rw [stem_plain (plain_of_lookup known), known, Sink.kind_empty]
  kept := rfl
  iterations metric member := by
    unfold samplesOf
    rw [get?_new]
    revert metric
    decide
  running := by
    rw [get?_new]
    rfl
  requests metric member := by
    unfold samplesOf
    rw [get?_new]
    revert metric
    decide
  checks := by
    rw [get?_new]
    rfl

end Recorder

end LoadTest
