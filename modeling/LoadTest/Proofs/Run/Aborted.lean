/-
**Runs that a threshold stopped.**

A run that was aborted was stopped by a look at its thresholds: one of them failed on what had been
recorded by then. Its users end their iterations all the same, what they record counts, and the
report on the threshold is the verdict on all of it. So the threshold that stopped the run is among
the reports, but may be reported as passed; where its verdict stands, it is not, and the run does not
pass. The exit code says that the run was aborted in any case.

* `Threshold.Breaks`: a threshold that stops a run;
* `Run.Reports`: what is reported on it at the end;
* `Run.breaks_of_aborted`: every run that was aborted has such a threshold.
-/

import LoadTest.Proofs.Run.Ending
import LoadTest.Proofs.Run.VirtualTime
import LoadTest.Proofs.Threshold.Judged
import LoadTest.Proofs.Threshold.Lasting

namespace LoadTest

/-! ### The definitions -/

/-- **A threshold of a plan that stops a run**, and the values that are kept of its metric by then. -/
structure Threshold.Breaks (threshold : Threshold) (setup : Setup) (run : Run) (now : Duration)
    (kind : MetricKind) (values : List (Measured Float)) : Prop where
  listed : threshold ∈ setup.plan.thresholds
  running : run.phase = .running
  armed : threshold.isArmed (run.journal.recorder.elapsed (setup.clock now)) = true
  kept : run.journal.recorder.sinks.get? threshold.metric.show = some (Sink.ofValues kind values)
  failed : (threshold.outcome
    (run.journal.recorder.aggregate threshold.metric (setup.clock now))).isFailed = true

namespace Run

/-- **What is reported on a threshold that stopped a run**, with more values behind those that it
failed on. -/
structure Reports (result : RunResult) (threshold : Threshold) (run : Run) (later : List Deposit)
    (kind : MetricKind) (values more : List (Measured Float)) : Prop where
  /-- Every further value is that of a sample which came later and belongs to the threshold. -/
  origins : ∀ value ∈ more, ∃ deposit ∈ later,
    threshold.metric.show ∈ run.journal.recorder.keysOf deposit.sample ∧
      deposit.sample.value = value
  /-- No value is missing: together they are all that is kept of the metric at the end. -/
  kept : (run.journal.recorder.recordAll (later.map Deposit.sample)).sinks.get?
    threshold.metric.show = some (Sink.ofValues kind (values ++ more))
  reported : threshold.report (threshold.outcome
    (some ((Sink.ofValues kind (values ++ more)).aggregate result.duration))) ∈ result.thresholds
  stands : threshold.expression.Stands kind more → (threshold.outcome (some
    ((Sink.ofValues kind (values ++ more)).aggregate result.duration))).isPassed = false ∧
      result.isPassed = false

variable {setup : Setup} {run : Run} {turns : List Turn} {now : Duration} {result : RunResult}

/-! ### The result -/

/-- A run gets its result when it is closed. -/
theorem close_of_result {turn : Turn} (going : run.isOver = false)
    (closed : (run.turn setup turn).result? = some result) : ∃ now status,
      turn = .happens now .close ∧ run.turn setup turn = run.close setup status now := by
  have passes := passes_turn setup run turn
  obtain ⟨departures, phase⟩ :
      ∃ departures, (run.turn setup turn).phase = .closed result departures := by
    unfold result? at closed
    split at closed
    · rename_i own departures same
      obtain rfl := Option.some.inj closed
      exact ⟨departures, same⟩
    · contradiction
  rw [phase] at passes
  cases passes with
  | stays same =>
    rw [isOver, ← same] at going
    contradiction
  | @closes now since _ _ stopping =>
    refine ⟨now, result.status, rfl, ?_⟩
    have after : run.turn setup (.happens now .close) =
        if run.pool.isQuiet || run.aborting then run.close setup result.status now else run := by
      show run.step setup now .close = _
      unfold step
      rw [stopping]
    by_cases ended : (run.pool.isQuiet || run.aborting) = true
    · rw [after, if_pos ended]
    · rw [after, if_neg ended, stopping] at phase
      contradiction

/-- The recorder of a run that is not over got all that was deposited. -/
theorem recorder_of_going (going : (moment setup turns).isOver = false) :
    (moment setup turns).journal.recorder = recorded setup (deposits setup turns) :=
  (sampled_moment setup turns).recorder.resolve_right fun ended =>
    Bool.false_ne_true (going.symm.trans ended.1)

/-- What is deposited later is recorded behind what a run has recorded by then. -/
theorem recorded_append (going : (moment setup turns).isOver = false) (rest : List Turn) :
    recorded setup (deposits setup (turns ++ rest)) =
      (moment setup turns).journal.recorder.recordAll
        ((depositsFrom setup (moment setup turns) rest).map Deposit.sample) := by
  rw [recorder_of_going going]
  unfold recorded deposits
  rw [depositsFrom_append, List.map_append]
  exact List.foldl_append

/-- **A result is that of a recorder which got all that was deposited.** -/
theorem exists_result (closed : (moment setup turns).result? = some result) :
    ∃ status peak now,
      result = Run.result setup status peak (recorded setup (deposits setup turns)) now := by
  induction turns using List.reverseRecOn with
  | nil => contradiction
  | append_singleton turns turn ih =>
    rw [moment_concat] at closed
    rw [deposits_concat]
    cases going : (moment setup turns).isOver with
    | true =>
      rw [depositsOf_of_over going, List.append_nil]
      refine ih ?_
      rcases @turn_of_over setup _ going turn with same | same <;> rwa [same] at closed
    | false =>
      obtain ⟨now, status, rfl, after⟩ := close_of_result going closed
      rw [depositsOf_of_silent rfl, List.append_nil]
      have same := (@dropAll_silent now (moment setup turns).pool.users
        (moment setup turns).journal).1
      rw [after] at closed
      obtain rfl := Option.some.inj closed
      rw [same, recorder_of_going going]
      exact ⟨_, _, _, rfl⟩

/-- The reports of a result are the verdicts on all that was deposited. -/
theorem reports_of_result (closed : (moment setup turns).result? = some result) :
    result.thresholds = setup.plan.thresholds.map fun threshold => threshold.report
      (threshold.outcome (((recorded setup (deposits setup turns)).sinks.get?
        threshold.metric.show).map fun sink => sink.aggregate result.duration)) := by
  obtain ⟨status, peak, now, rfl⟩ := exists_result closed
  refine List.map_congr_left fun threshold _ => ?_
  unfold Snapshot.get? Recorder.snapshot
  rw [Table.get?_map]
  rfl

/-! ### The threshold -/

/-- A run that is neither stopped nor over goes on. -/
theorem running_of_unstopped (going : run.isOver = false) (unstopped : run.status? = none) :
    run.phase = .running := by
  unfold isOver at going
  unfold status? at unstopped
  cases same : run.phase with
  | running => rfl
  | stopping | closed | faulted =>
    rw [same] at going unstopped
    contradiction

/-- What a look at the thresholds finds. -/
theorem exists_of_breach {recorder : Recorder Float} {thresholds : List Threshold} {breach : Breach}
    (found : recorder.breach? thresholds now = some breach) : ∃ threshold ∈ thresholds,
      threshold.isArmed (recorder.elapsed now) = true ∧
        (threshold.outcome (recorder.aggregate threshold.metric now)).isFailed = true := by
  obtain ⟨threshold, listed, breaks⟩ := List.exists_of_findSome?_eq_some found
  dsimp only at breaks
  split at breaks
  · rename_i both
    obtain ⟨armed, failed⟩ := Bool.and_eq_true_iff.mp both
    exact ⟨threshold, listed, armed, failed⟩
  · contradiction

/-- **A threshold that stops a run fails on the values that are kept of its metric.** -/
theorem breaks_of_breach {breach : Breach} (running : (moment setup turns).phase = .running)
    (found : (moment setup turns).journal.recorder.breach? setup.plan.thresholds
      (setup.clock now) = some breach) : ∃ (threshold : Threshold) (kind : MetricKind)
        (values : List (Measured Float)), Measured.Recordable values ∧
          threshold.Breaks setup (moment setup turns) now kind values := by
  obtain ⟨threshold, listed, armed, failed⟩ := exists_of_breach found
  have going : (moment setup turns).isOver = false := by rw [isOver, running]
  cases kept : (moment setup turns).journal.recorder.sinks.get? threshold.metric.show with
  | none =>
    unfold Recorder.aggregate at failed
    rw [kept] at failed
    contradiction
  | some sink =>
    have found := kept
    rw [recorder_of_going going] at found
    obtain ⟨kind, values, recordable, rfl⟩ := Recorder.exists_values _ _ found
    exact ⟨threshold, kind, values, recordable, listed, running, armed, kept, failed⟩

/-- **What is reported on it at the end.** -/
theorem exists_reports {threshold : Threshold} {kind : MetricKind} {values : List (Measured Float)}
    {rest : List Turn} (breaks : threshold.Breaks setup (moment setup turns) now kind values)
    (recordable : Measured.Recordable values)
    (closed : (moment setup (turns ++ rest)).result? = some result) :
    ∃ more, Reports result threshold (moment setup turns)
      (depositsFrom setup (moment setup turns) rest) kind values more := by
  have going : (moment setup turns).isOver = false := by rw [isOver, breaks.running]
  obtain ⟨more, further, grown, origins⟩ := Recorder.exists_more
    ((depositsFrom setup (moment setup turns) rest).map Deposit.sample) breaks.kept
  have kept : ((moment setup turns).journal.recorder.recordAll
      ((depositsFrom setup (moment setup turns) rest).map Deposit.sample)).sinks.get?
        threshold.metric.show = some (Sink.ofValues kind (values ++ more)) :=
    grown.trans (congrArg some List.foldl_append.symm)
  have reported : threshold.report (threshold.outcome (some
      ((Sink.ofValues kind (values ++ more)).aggregate result.duration))) ∈ result.thresholds := by
    rw [reports_of_result closed, List.mem_map]
    refine ⟨threshold, breaks.listed, ?_⟩
    rw [recorded_append going, kept]
    rfl
  refine ⟨more, fun value member => ?_, kept, reported, fun stands => ?_⟩
  · obtain ⟨sample, listed, named, same⟩ := origins value member
    obtain ⟨deposit, inside, rfl⟩ := List.mem_map.1 listed
    exact ⟨deposit, inside, named, same⟩
  · have failed := breaks.failed
    unfold Recorder.aggregate at failed
    rw [breaks.kept] at failed
    have missed : (threshold.outcome (some ((Sink.ofValues kind (values ++ more)).aggregate
        result.duration))).isPassed = false :=
      Threshold.isPassed_of_stands stands (List.forall_mem_append.2 ⟨recordable, further⟩) failed
    refine ⟨missed, List.all_eq_false.2 ⟨_, reported, ?_⟩⟩
    exact fun passed => Bool.false_ne_true (missed.symm.trans passed)

/-- **Every run that was aborted was stopped by a threshold that failed**, whatever its users recorded
before and after. The result reports on that threshold, by all values, and the run does not pass
where the verdict stands. The exit code is that of an aborted run in any case. -/
theorem breaks_of_aborted (closed : (moment setup turns).result? = some result)
    (aborted : result.status = .abortedByThreshold) :
    result.exitCode = .thresholdAbort ∧ ∃ before now rest threshold kind values more,
      turns = before ++ .happens now .watch :: rest ∧
      threshold.Breaks setup (moment setup before) now kind values ∧
      Reports result threshold (moment setup before)
        (depositsFrom setup (moment setup before) (.happens now .watch :: rest))
        kind values more := by
  refine ⟨by rw [RunResult.exitCode, aborted], ?_⟩
  have status := status_of_result closed
  rw [aborted] at status
  obtain ⟨before, now, happening, rest, rfl, running, stops⟩ := stopped_of_status status
  cases stops with
  | breached breach found =>
    obtain ⟨threshold, kind, values, recordable, breaks⟩ := breaks_of_breach running found
    obtain ⟨more, reports⟩ := exists_reports breaks recordable closed
    exact ⟨before, now, rest, threshold, kind, values, more, rfl, breaks, reports⟩

/-- A plan with a user whose first iteration ends well, whose second one fails and whose third one
ends well again, and a threshold that is looked at before that. -/
def faltering : Setup :=
  .of { Plan.named "recover" with
    schedule := ⟨1, [⟨.ofMillis 1000, 1⟩]⟩
    thresholdInterval := .ofMillis 130
    thresholds := [⟨⟨BuiltIn.iterationFailed, []⟩, ⟨.rate, .lt, 1 / 2⟩, "rate<0.5",
      some ⟨none⟩⟩] } fun _ iteration =>
    .sleep (.ofMillis (if iteration = 1 then 53 else 57)) <|
      .finish (if iteration = 2 then some (.custom "failed") else none)

/-- The threshold is looked at between the second iteration and the end of the third one. -/
def faltered : List Turn :=
  [.happens .zero .tick, .happens .zero (.user 1 .wake), .happens (.ofMillis 53) (.user 1 .wake),
    .happens (.ofMillis 53) (.user 1 .wake), .happens (.ofMillis 110) (.user 1 .wake),
    .happens (.ofMillis 110) (.user 1 .wake), .happens (.ofMillis 130) .watch,
    .happens (.ofMillis 167) (.user 1 .wake), .happens (.ofMillis 167) (.user 1 .wake),
    .happens (.ofMillis 167) .close]

theorem breaks_faltered : ∃ result, (moment faltering faltered).result? = some result ∧
    result.status = .abortedByThreshold ∧
    result.exitCode = .thresholdAbort ∧ ∃ before now rest threshold kind values more,
      faltered = before ++ .happens now .watch :: rest ∧
      threshold.Breaks faltering (moment faltering before) now kind values ∧
      Reports result threshold (moment faltering before)
        (depositsFrom faltering (moment faltering before) (.happens now .watch :: rest))
        kind values more := by
  have ended : (moment faltering faltered).result?.map RunResult.status =
      some .abortedByThreshold := by
    decide +kernel
  obtain ⟨result, closed, aborted⟩ := Option.map_eq_some_iff.1 ended
  exact ⟨result, closed, aborted, breaks_of_aborted closed aborted⟩

/-- At most one iteration may end. -/
def scarce : Threshold :=
  ⟨⟨BuiltIn.iterationFailed, []⟩, ⟨.count, .lt, 2⟩, "count<2", some ⟨none⟩⟩

/-- The same plan with this threshold, which the second iteration breaks. -/
def exhausting : Setup :=
  { faltering with plan := { faltering.plan with thresholds := [scarce] } }

/-- **A verdict that stands**: the third iteration counts as well, and the run does not pass. -/
theorem not_passed_exhausting : exhausting.plan.validate = .ok exhausting.plan ∧
    ∃ result more, (moment exhausting faltered).result? = some result ∧
      result.status = .abortedByThreshold ∧
      scarce.Breaks exhausting (moment exhausting (faltered.take 6)) (.ofMillis 130) .rate
        [.flag false, .flag true] ∧
      Reports result scarce (moment exhausting (faltered.take 6))
        (depositsFrom exhausting (moment exhausting (faltered.take 6)) (faltered.drop 6)) .rate
        [.flag false, .flag true] more ∧
      more ≠ [] ∧ scarce.expression.Stands .rate more ∧ result.isPassed = false := by
  have ended : (moment exhausting faltered).result?.map RunResult.status =
      some .abortedByThreshold := by
    decide +kernel
  obtain ⟨result, closed, aborted⟩ := Option.map_eq_some_iff.1 ended
  have breaks : scarce.Breaks exhausting (moment exhausting (faltered.take 6)) (.ofMillis 130)
      .rate [.flag false, .flag true] :=
    { listed := List.mem_singleton_self scarce
      running := running_of_unstopped (by decide +kernel) (by decide +kernel)
      armed := by decide +kernel
      kept := by decide +kernel
      failed := by decide +kernel }
  have recordable : Measured.Recordable [(.flag false : Measured Float), .flag true] :=
    List.forall_mem_cons.2 ⟨rfl, List.forall_mem_singleton.2 rfl⟩
  have whole : faltered = faltered.take 6 ++ faltered.drop 6 := rfl
  obtain ⟨more, reports⟩ := exists_reports breaks recordable (whole ▸ closed)
  have stands : scarce.expression.Stands .rate more := .recedes rfl nofun
  have further : more ≠ [] := by
    -- The sink at the end is not the one that the threshold failed on.
    rintro rfl
    have kept := reports.kept
    revert kept
    decide +kernel
  exact ⟨rfl, result, more, closed, aborted, breaks, reports, further, stands,
    (reports.stands stands).2⟩

/-- **A run that was aborted may pass**: the iteration that was going on ended well. -/
theorem not_passed_of_aborted_fails :
    ¬ ∀ (setup : Setup) (server : Outgoing → Reply) (most : ℕ) (result : RunResult),
      setup.plan.validate = .ok setup.plan →
      (∀ threshold ∈ setup.plan.thresholds, threshold.Parsed) →
      (Timeline.play setup server most (.ofPlan setup.plan) .zero (start setup)).result? =
        some result → result.status = .abortedByThreshold → result.isPassed = false := by
  intro always
  have parsed : ∀ threshold ∈ faltering.plan.thresholds, threshold.Parsed := by
    intro threshold member
    obtain rfl := List.mem_singleton.1 member
    exact ⟨"iteration_failed", "rate<0.5", by decide +kernel⟩
  have played : (Timeline.play faltering (fun _ => .response 200 [] [] .zero) 30
      (.ofPlan faltering.plan) .zero (start faltering)).result?.map
        (fun result => (result.status, result.isPassed)) = some (.abortedByThreshold, true) := by
    decide +kernel
  obtain ⟨result, closed, same⟩ := Option.map_eq_some_iff.1 played
  obtain ⟨aborted, passed⟩ := Prod.mk.inj same
  exact Bool.false_ne_true
    ((always faltering _ 30 result rfl parsed closed aborted).symm.trans passed)

end Run

end LoadTest
