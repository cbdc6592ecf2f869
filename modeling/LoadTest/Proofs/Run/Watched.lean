/-
**Runs and their watches.**

The watch of a run hears of every look at the thresholds that falls into the run, and of the end of
the run if something else stops it. Whatever happens in a run, it does what its watch says: it goes on
while the watch looks on, it is aborted for a threshold exactly if the watch fires, and a watch that
was told to stop never aborts it.

* `Run.calls`: what comes to the watch of a run;
* `Run.Obeys`, `Run.obeys_moment`: a run does what its watch says;
* `Watch.fires_first`: a watch fires at the first look that finds a threshold which stops the run.
-/

import LoadTest.Proofs.Run.Ending
import LoadTest.Proofs.Threshold.Watching

namespace LoadTest

namespace Run

variable {setup : Setup} {run : Run} {watch : Watch}

/-- What a turn of a run is for its watch: a look at the thresholds, the end of the run, or nothing. -/
def callsOf (setup : Setup) (run : Run) (turn : Turn) : List Watch.Call :=
  match run.phase with
  | .running =>
    match turn with
    | .happens now .watch => [.look run.journal.recorder (setup.clock now)]
    | _ =>
      match (run.turn setup turn).phase with
      | .running => []
      | _ => [.stop]
  | _ => []

/-- What comes to the watch of a run in some turns, from a moment on. -/
def callsFrom (setup : Setup) : Run → List Turn → List Watch.Call
  | _, [] => []
  | run, turn :: rest => run.callsOf setup turn ++ callsFrom setup (run.turn setup turn) rest

/-- **All that comes to the watch of a run.** -/
def calls (setup : Setup) (turns : List Turn) : List Watch.Call := callsFrom setup (start setup) turns

/-- **A run does what its watch says.** -/
inductive Obeys (run : Run) : Watch → Prop
  | goesOn (running : run.phase = .running) : Obeys run .watching
  | aborted (breach : Breach) (status : run.status? = some .abortedByThreshold) :
    Obeys run (.fired breach)
  | ended (done : run.phase ≠ .running) (otherwise : run.status? ≠ some .abortedByThreshold) :
    Obeys run .stopped

/-- A run obeys its watch as long as it neither ends nor changes its status. -/
theorem Obeys.congr {next : Run} (obeys : run.Obeys watch)
    (running : next.phase = .running ↔ run.phase = .running) (status : next.status? = run.status?) :
    next.Obeys watch := by
  cases obeys with
  | goesOn own => exact .goesOn (running.2 own)
  | aborted breach aborted => exact .aborted breach (status.trans aborted)
  | ended done otherwise => exact .ended (fun own => done (running.1 own)) (status ▸ otherwise)

/-- A run that goes on has a watch that looks on. -/
theorem Obeys.watching (obeys : run.Obeys watch) (running : run.phase = .running) :
    watch = .watching := by
  cases obeys with
  | goesOn => rfl
  | ended done => exact absurd running done
  | aborted breach status =>
    rw [status?, running] at status
    contradiction

/-! ### What comes to the watch -/

theorem callsOf_over (done : run.phase ≠ .running) (turn : Turn) : run.callsOf setup turn = [] := by
  unfold callsOf
  split
  · rename_i running
    exact absurd running done
  · rfl

theorem callsOf_watch (running : run.phase = .running) (now : Duration) :
    run.callsOf setup (.happens now .watch) = [.look run.journal.recorder (setup.clock now)] := by
  unfold callsOf
  rw [running]

section Others

variable {turn : Turn} (running : run.phase = .running) (other : ∀ now, turn ≠ .happens now .watch)
include running other

theorem callsOf_quiet (still : (run.turn setup turn).phase = .running) :
    run.callsOf setup turn = [] := by
  unfold callsOf
  rw [running]
  dsimp only
  split
  · rename_i now
    exact absurd rfl (other now)
  · rw [still]

/-- **What stops a run without a look at its thresholds is the end of its watch.** -/
theorem obeys_stop (done : (run.turn setup turn).phase ≠ .running)
    (otherwise : (run.turn setup turn).status? ≠ some .abortedByThreshold) :
    (run.turn setup turn).Obeys
      ((run.callsOf setup turn).foldl (Watch.hear setup.plan.thresholds) .watching) := by
  have call : run.callsOf setup turn = [.stop] := by
    unfold callsOf
    rw [running]
    dsimp only
    split
    · rename_i now
      exact absurd rfl (other now)
    · split
      · rename_i same
        exact absurd same done
      · rfl
  rw [call]
  exact .ended done otherwise

end Others

/-- **A look at the thresholds of a run is a look of its watch.** -/
theorem obeys_look (running : run.phase = .running) (now : Duration) :
    (run.turn setup (.happens now .watch)).Obeys
      ((run.callsOf setup (.happens now .watch)).foldl (Watch.hear setup.plan.thresholds)
        .watching) := by
  have looks : run.turn setup (.happens now .watch) = run.watch setup now := by
    show run.step setup now .watch = _
    unfold step
    rw [running]
  rw [callsOf_watch running, looks, List.foldl_cons, List.foldl_nil]
  unfold watch Watch.hear
  dsimp only
  cases run.journal.recorder.breach? setup.plan.thresholds (setup.clock now) with
  | none => exact .goesOn running
  | some breach => exact .aborted breach rfl

/-! ### Whole runs -/

/-- **Every turn of a run that obeys its watch is what the watch says.** -/
theorem Obeys.turn (obeys : run.Obeys watch) (turn : Turn) : (run.turn setup turn).Obeys
    ((run.callsOf setup turn).foldl (Watch.hear setup.plan.thresholds) watch) := by
  by_cases running : run.phase = .running
  · rw [obeys.watching running]
    by_cases look : ∃ now, turn = .happens now .watch
    · obtain ⟨now, rfl⟩ := look
      exact obeys_look running now
    · have other : ∀ now, turn ≠ .happens now .watch := fun now same => look ⟨now, same⟩
      have passes := passes_turn setup run turn
      generalize phase : (run.turn setup turn).phase = next at passes
      cases passes with
      | stays same =>
        have still := phase.trans (same.trans running)
        rw [callsOf_quiet running other still]
        exact .goesOn still
      | closes departures stopping =>
        rw [running] at stopping
        contradiction
      | faults fault =>
        refine obeys_stop running other (fun same => ?_) fun status => ?_
        · rw [phase] at same
          contradiction
        · rw [status?, phase] at status
          contradiction
      | stops own stops =>
        refine obeys_stop running other (fun same => ?_) fun status => ?_
        · rw [phase] at same
          contradiction
        · rw [status?, phase] at status
          cases stops with
          | breached => exact other _ rfl
          | finished | cancelled | aborted | expired => cases status
  · rw [callsOf_over running]
    have passes := passes_turn setup run turn
    generalize phase : (run.turn setup turn).phase = next at passes
    cases passes with
    | stays same =>
      exact obeys.congr (by rw [phase, same]) (by rw [status?, status?, phase, same])
    | closes departures stopping =>
      refine obeys.congr ?_ ?_
      · rw [phase, stopping]
        exact iff_of_false nofun nofun
      · rw [status?, status?, phase, stopping]
    | stops own | faults _ own => exact absurd own running

theorem callsFrom_append (setup : Setup) (run : Run) (turns rest : List Turn) :
    callsFrom setup run (turns ++ rest) =
      callsFrom setup run turns ++ callsFrom setup (turns.foldl (turn setup) run) rest := by
  induction turns generalizing run with
  | nil => rfl
  | cons turn turns ih =>
    show _ ++ callsFrom setup (run.turn setup turn) (turns ++ rest) = _
    rw [ih, ← List.append_assoc]
    rfl

theorem calls_concat (setup : Setup) (turns : List Turn) (turn : Turn) :
    calls setup (turns ++ [turn]) = calls setup turns ++ (moment setup turns).callsOf setup turn := by
  unfold calls
  rw [callsFrom_append]
  exact congrArg _ (List.append_nil _)

/-- **A run does at every moment what its watch says.** -/
theorem obeys_moment (setup : Setup) (turns : List Turn) :
    (moment setup turns).Obeys (Watch.follow setup.plan.thresholds (calls setup turns)) := by
  induction turns using List.reverseRecOn with
  | nil => exact .goesOn rfl
  | append_singleton turns turn ih =>
    rw [moment_concat, calls_concat, Watch.follow, List.foldl_append]
    exact ih.turn turn

end Run

/-- **A watch fires at the first look that finds a threshold which stops the run.** Whatever
thresholds there are, whatever is recorded at each look and whenever it takes place, the watch tells
the run to stop and reports on a threshold exactly if that is the first one of the plan that stops the
run at the first look at which there is one; if it is told to stop before, it reports nothing and
tells nothing. A threshold stops a run only if it may, after its delay, and if it fails on a snapshot
of all that is recorded, to which its own metric alone comes as well. Every run does what its watch
says. -/
theorem Watch.fires_first (thresholds : List Threshold) (calls : List Call) :
    (∀ report, (follow thresholds calls).result? = some (some report) ↔
      ∃ before recorder now rest breach, calls = before ++ .look recorder now :: rest ∧
        Quiet thresholds before ∧ recorder.Finds thresholds now breach ∧ breach.report = report) ∧
    ((follow thresholds calls).result? = some none ↔
      ∃ before rest, calls = before ++ .stop :: rest ∧ Quiet thresholds before) ∧
    ((follow thresholds calls).isTriggered = true ↔
      ∃ report, (follow thresholds calls).result? = some (some report)) ∧
    (∀ (threshold : Threshold) (recorder : Recorder Float) (now : Duration),
      threshold.outcome (recorder.aggregate threshold.metric now) =
        threshold.outcome ((recorder.snapshot now).get? threshold.metric)) ∧
    ∀ (setup : Setup) (turns : List Turn), (Run.moment setup turns).Obeys
      (follow setup.plan.thresholds (Run.calls setup turns)) := by
  refine ⟨fun report => ⟨fun back => ?_, ?_⟩, ⟨fun back => ?_, ?_⟩, ?_, fun _ _ _ =>
    congrArg _ (Recorder.aggregate_eq_get? ..), Run.obeys_moment⟩
  · have became := became_follow thresholds calls
    generalize follow thresholds calls = watch at back became
    cases became with
    | watching | stopped => cases back
    | fired split quiet finds =>
      exact ⟨_, _, _, _, _, split, quiet, finds, Option.some.inj (Option.some.inj back)⟩
  · rintro ⟨before, recorder, now, rest, breach, split, quiet, finds, rfl⟩
    rw [follow_eq_iff.2 (.fired split quiet finds)]
    rfl
  · have became := became_follow thresholds calls
    generalize follow thresholds calls = watch at back became
    cases became with
    | watching | fired => cases back
    | stopped split quiet => exact ⟨_, _, split, quiet⟩
  · rintro ⟨before, rest, split, quiet⟩
    rw [follow_eq_iff.2 (.stopped split quiet)]
    rfl
  · cases follow thresholds calls with
    | watching | stopped => exact iff_of_false nofun nofun
    | fired breach => exact iff_of_true rfl ⟨_, rfl⟩

end LoadTest
