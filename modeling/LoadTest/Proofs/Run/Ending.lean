/-
**What ends a run.**

A run goes on until something stops it, and keeps the status that it stopped with. A run that has a
status was stopped at exactly one turn: by a tick behind the schedule, by what is told to it from
outside, or by a look at its thresholds that finds one failing.

* `Run.Stops`: what stops a run, and with which status;
* `Run.Passes`, `Run.passes_turn`: all that a turn can do to the phase of a run;
* `Run.stopped_of_status`: where a run was stopped that has a status;
* `Run.unstopped_of_running`: nothing stopped a run that goes on.
-/

import LoadTest.Proofs.Run.Orderly
import LoadTest.Proofs.Run.Ramp

namespace LoadTest.Run

variable {setup : Setup} {run : Run} {now : Duration}

/-- The status of a run that stops or is closed. -/
def status? (run : Run) : Option RunStatus :=
  match run.phase with
  | .stopping status _ => some status
  | .closed result _ => some result.status
  | _ => none

/-- **What stops a run that goes on**, and with which status. -/
inductive Stops (setup : Setup) (run : Run) (now : Duration) : Happening → RunStatus → Prop
  | finished (ended : setup.plan.schedule.isFinished now = true) :
    Stops setup run now .tick .completed
  | cancelled : Stops setup run now .cancel .interrupted
  | aborted : Stops setup run now .abort .interrupted
  | expired : Stops setup run now .deadline .interrupted
  | breached (breach : Breach)
      (found : run.journal.recorder.breach? setup.plan.thresholds (setup.clock now) = some breach) :
    Stops setup run now .watch .abortedByThreshold

/-- **All that a turn can do to the phase of a run.** -/
inductive Passes (setup : Setup) (run : Run) : Turn → Phase → Prop
  | stays {turn : Turn} {phase : Phase} (same : phase = run.phase)
      (unstopped : run.phase = .running → ∀ now happening status,
        turn = .happens now happening → ¬ Stops setup run now happening status) :
    Passes setup run turn phase
  | stops {now : Duration} {happening : Happening} {status : RunStatus}
      (running : run.phase = .running) (stops : Stops setup run now happening status) :
    Passes setup run (.happens now happening) (.stopping status now)
  | faults {now : Duration} (fault : PlanFault) (running : run.phase = .running)
      (early : setup.plan.schedule.isFinished now = false) :
    Passes setup run (.happens now .tick) (.faulted fault)
  | closes {now since : Duration} {result : RunResult} (departures : Departures)
      (stopping : run.phase = .stopping result.status since) :
    Passes setup run (.happens now .close) (.closed result departures)

theorem passes_tick (running : run.phase = .running) (now : Duration) :
    Passes setup run (.happens now .tick) (run.tick setup now).phase := by
  obtain ⟨-, samePhase, -⟩ := announce_frame run setup.plan.schedule now
  unfold tick
  dsimp only
  by_cases ended : setup.plan.schedule.isFinished now = true
  · rw [if_pos ended]
    exact .stops running (.finished ended)
  · rw [if_neg ended]
    cases (run.announce setup.plan.schedule now).pool.reap.setTarget now setup.plan.maxUsers
        (setup.usersAt now) with
    | error fault => exact .faults fault running (Bool.eq_false_of_not_eq_true ended)
    | ok pool =>
      refine .stays samePhase fun _ time happening status same stops => ?_
      cases same
      cases stops with
      | finished late => exact ended late

theorem passes_watch (running : run.phase = .running) (now : Duration) :
    Passes setup run (.happens now .watch) (run.watch setup now).phase := by
  unfold watch
  cases found : run.journal.recorder.breach? setup.plan.thresholds (setup.clock now) with
  | some breach => exact .stops running (.breached breach found)
  | none =>
    refine .stays rfl fun _ time happening status same stops => ?_
    cases same
    cases stops with
    | breached breach other =>
      rw [found] at other
      contradiction

/-- **Every turn does one of these things.** -/
theorem passes_turn (setup : Setup) (run : Run) (turn : Turn) :
    Passes setup run turn (run.turn setup turn).phase := by
  cases turn with
  | token => exact .stays rfl fun _ _ _ _ same => by contradiction
  | happens now happening =>
    -- What no longer goes on is not stopped again.
    have settled (ended : run.phase ≠ .running) {next : Phase} (same : next = run.phase) :
        Passes setup run (.happens now happening) next :=
      .stays same fun running => absurd running ended
    show Passes setup run _ (run.step setup now happening).phase
    cases phase : run.phase with
    | running =>
      unfold step
      rw [phase]
      cases happening with
      | tick => exact passes_tick phase now
      | cancel => exact .stops phase .cancelled
      | deadline => exact .stops phase .expired
      | abort => exact .stops phase .aborted
      | watch => exact passes_watch phase now
      | user id signal =>
        refine .stays (advance_still run now id signal).1 fun _ time other status same stops => ?_
        cases same
        cases stops
      | graceOver | close =>
        refine .stays rfl fun _ time other status same stops => ?_
        cases same
        cases stops
    | closed | faulted =>
      have kept : run.step setup now happening = run := by
        unfold step
        rw [phase]
      rw [kept]
      exact settled (fun running => by rw [phase] at running; contradiction) rfl
    | stopping status since =>
      have ended : run.phase ≠ .running := fun running => by
        rw [phase] at running
        contradiction
      unfold step
      rw [phase]
      cases happening with
      | user id signal => exact settled ended (advance_still run now id signal).1
      | graceOver => exact settled ended (graceOver_still run).1
      | abort => exact settled ended phase.symm
      | close =>
        dsimp only
        split
        · exact .closes _ phase
        · exact settled ended rfl
      | tick | cancel | deadline | watch => exact settled ended rfl

/-! ### Whole runs -/

/-- A run that goes on after a turn went on before it, and the turn did not stop it. -/
theorem running_before {turn : Turn} (running : (run.turn setup turn).phase = .running) :
    run.phase = .running ∧ ∀ now happening status,
      turn = .happens now happening → ¬ Stops setup run now happening status := by
  have passes := passes_turn setup run turn
  rw [running] at passes
  cases passes with
  | stays same unstopped => exact ⟨same.symm, unstopped same.symm⟩

/-- **Nothing stopped a run that goes on**: it went on at every moment before. -/
theorem unstopped_of_running {turns : List Turn} (running : (moment setup turns).phase = .running)
    {before rest : List Turn} {happening : Happening}
    (split : turns = before ++ .happens now happening :: rest) :
    (moment setup before).phase = .running ∧
      ∀ status, ¬ Stops setup (moment setup before) now happening status := by
  induction turns using List.reverseRecOn generalizing rest with
  | nil => exact absurd split.symm (List.append_ne_nil_of_right_ne_nil _ (List.cons_ne_nil _ _))
  | append_singleton turns turn ih =>
    rw [moment_concat] at running
    obtain ⟨earlier, unstopped⟩ := running_before running
    rcases place_of_concat split with ⟨rfl, same, -⟩ | ⟨behind, -, sooner⟩
    · exact ⟨earlier, fun status => unstopped now happening status same.symm⟩
    · exact ih earlier sooner

/-- The run was stopped by one of its turns, with a status. -/
def Stopped (setup : Setup) (turns : List Turn) (status : RunStatus) : Prop :=
  ∃ before now happening rest, turns = before ++ .happens now happening :: rest ∧
    (moment setup before).phase = .running ∧ Stops setup (moment setup before) now happening status

theorem Stopped.concat {turns : List Turn} {status : RunStatus}
    (stopped : Stopped setup turns status) (turn : Turn) :
    Stopped setup (turns ++ [turn]) status := by
  obtain ⟨before, now, happening, rest, rfl, running, stops⟩ := stopped
  exact ⟨before, now, happening, rest ++ [turn], List.append_assoc _ _ _, running, stops⟩

/-- **A run that has a status was stopped with it.** -/
theorem stopped_of_status {turns : List Turn} {status : RunStatus}
    (ended : (moment setup turns).status? = some status) : Stopped setup turns status := by
  induction turns using List.reverseRecOn with
  | nil => contradiction
  | append_singleton turns turn ih =>
    have passes := passes_turn setup (moment setup turns) turn
    rw [← moment_concat] at passes
    unfold status? at ended
    generalize (moment setup (turns ++ [turn])).phase = phase at passes ended
    cases passes with
    | stops running stops =>
      obtain rfl := Option.some.inj ended
      exact ⟨turns, _, _, [], rfl, running, stops⟩
    | stays same unstopped =>
      rw [same] at ended
      exact (ih ended).concat turn
    | closes departures stopping =>
      have before : (moment setup turns).status? = some status := by
        unfold status?
        rw [stopping]
        exact ended
      exact (ih before).concat _
    | faults fault running early => contradiction

theorem status_of_result {turns : List Turn} {result : RunResult}
    (closed : (moment setup turns).result? = some result) :
    (moment setup turns).status? = some result.status := by
  unfold result? at closed
  unfold status?
  cases phase : (moment setup turns).phase with
  | closed own departures =>
    rw [phase] at closed
    exact congrArg (some ∘ RunResult.status) (Option.some.inj closed)
  | running | stopping | faulted =>
    rw [phase] at closed
    contradiction

end LoadTest.Run
