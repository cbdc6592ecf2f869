/-
**What the timers of a run get from validation.**

The timers of a run are started with the durations of its plan: one that ticks, one that looks at
the thresholds, and those of pauses and of the time to stop. A valid plan has a tick, and none of
its durations is too long, nor is any sum of its stages. It may have no time between two looks at
the thresholds, though; then nobody looks at them, and no threshold stops the run.

* `Schedule.ends?`: when each stage ends, if all sums are in range;
* `Plan.Timely`: what the timers can rely on, and what not;
* `Plan.timely_of_validate`: a valid plan is timely;
* `Plan.interval_pos_of_validate_fails`: a valid plan without a time between two looks.
-/

import LoadTest.Command.Program
import LoadTest.Proofs.Command.Stages
import LoadTest.Proofs.Plan.Accepted
import LoadTest.Proofs.Run.VirtualTime

namespace LoadTest

/-! ### Sums of stages -/

/-- When each stage ends, with the stage, if every sum is in range. -/
def Schedule.ends? (start : Duration) : List Stage → Option (List (Duration × Stage))
  | [] => some []
  | stage :: rest => do
    let finish ← start.add? stage.duration
    return (finish, stage) :: (← ends? finish rest)

theorem Duration.add?_eq_some {d e : Duration} (fits : d.nanos + e.nanos ≤ longest.nanos) :
    d.add? e = some (d + e) := by
  refine ofNanos?_eq_some_iff.2 ?_
  rw [nanos_add, min_eq_left fits]

/-- **Stages that are not too long together end where the sums say**, none of which is cut. -/
theorem Schedule.ends?_eq_ends {start : Duration} {stages : List Stage}
    (fits : start.nanos + spanOf stages ≤ Duration.longest.nanos) :
    ends? start stages = some (ends start stages) := by
  induction stages generalizing start with
  | nil => rfl
  | cons stage rest ih =>
    rw [spanOf_cons, ← Nat.add_assoc] at fits
    have first : start.nanos + stage.duration.nanos ≤ Duration.longest.nanos :=
      (Nat.le_add_right _ _).trans fits
    have later : (start + stage.duration).nanos + spanOf rest ≤ Duration.longest.nanos := by
      rw [Duration.nanos_add, min_eq_left first]
      exact fits
    unfold ends? ends
    rw [Duration.add?_eq_some first]
    show (ends? (start + stage.duration) rest >>= fun more =>
      some ((start + stage.duration, stage) :: more)) = _
    rw [ih later]
    rfl

/-! ### Plans -/

namespace Plan

variable {plan : Plan}

/-- The plan with another time between two looks at the thresholds. -/
def withInterval (plan : Plan) (interval : Duration) : Plan :=
  { plan with thresholdInterval := interval }

/-- **Of the time between two looks nothing is asked but that it is not too long.** -/
theorem Checked.withInterval (checked : plan.Checked) {interval : Duration}
    (short : interval.nanos ≤ longestSupported.nanos) : (plan.withInterval interval).Checked := by
  obtain ⟨users, ticks, lengths, caps, pause, headers⟩ := checked
  refine ⟨users, ticks, ?_, caps, pause, headers⟩
  simp only [namedDurations, List.cons_append, List.forall_mem_cons] at lengths ⊢
  obtain ⟨total, tick, gracefulStop, timeout, -, delays⟩ := lengths
  exact ⟨total, tick, gracefulStop, timeout, short, delays⟩

/-- **What the timers of a run can rely on**, and what they cannot. -/
structure Timely (plan : Plan) : Prop where
  /-- There is time between two ticks. -/
  tick : 0 < plan.tick.nanos
  /-- No duration is longer than supported. -/
  lengths : ∀ named ∈ plan.namedDurations, named.2 ≤ longestSupported
  /-- Neither is a pause, and the ends of a range are in order. -/
  pause : ∀ span, plan.sleep = some (.fixed span) → span ≤ longestSupported
  range : ∀ least most, plan.sleep = some (.uniform least most) →
    least ≤ most ∧ most ≤ longestSupported
  /-- No sum of the first stages is out of range. -/
  ends : Schedule.ends? .zero plan.schedule.stages = some (Schedule.ends .zero plan.schedule.stages)
  /-- Without a time between two looks at the thresholds the plan is as valid. -/
  unasked : (plan.withInterval .zero).validate = .ok (plan.withInterval .zero)
  /-- A run of such a plan is never stopped by a threshold. -/
  unwatched : ∀ (setup : Setup) (server : Outgoing → Reply) (most : ℕ),
    setup.plan = plan.withInterval .zero →
      (Timeline.play setup server most (.ofPlan setup.plan) .zero (Run.start setup)).status? ≠
        some .abortedByThreshold

/-- Nobody looks at the thresholds, so none of them stops the run. -/
theorem status_ne_aborted (setup : Setup) (server : Outgoing → Reply) (most : ℕ)
    (silent : (Timeline.ofPlan setup.plan).nextWatch = none) :
    (Timeline.play setup server most (.ofPlan setup.plan) .zero (Run.start setup)).status? ≠
      some .abortedByThreshold := by
  intro aborted
  rw [Timeline.play_eq_follow, ← Run.moment_happens] at aborted
  obtain ⟨before, now, happening, rest, split, -, stops⟩ := Run.stopped_of_status aborted
  have member : Turn.happens now happening ∈ _ :=
    split ▸ List.mem_append_right before List.mem_cons_self
  obtain ⟨next, among, same⟩ := List.mem_map.1 member
  cases stops with
  | breached breach found =>
    have watch : next.2 = .watch := (Turn.happens.inj same).2
    exact Timeline.unwatched_played most silent next among watch

/-- **A valid plan is timely.** -/
theorem timely_of_validate {result : Plan} (valid : plan.validate = .ok result) :
    result.Timely := by
  obtain ⟨rfl, checked⟩ := checked_of_validate valid
  have sums : Duration.zero.nanos + Schedule.spanOf result.schedule.stages ≤
      Duration.longest.nanos := Schedule.walk_fits (fits_of_checked checked)
  exact {
    tick := by simpa [Duration.isZero, Nat.pos_iff_ne_zero] using checked.ticks
    lengths := checked.lengths
    pause := fun span own => by
      have passed := checked.pause
      rw [own] at passed
      exact le_of_checkLength passed
    range := fun least most own => by
      have passed := checked.pause
      rw [own] at passed
      exact le_of_checkSleep passed
    ends := Schedule.ends?_eq_ends sums
    unasked := validate_of_checked (checked.withInterval (Nat.zero_le _))
    unwatched := fun setup server most same => by
      refine status_ne_aborted setup server most ?_
      rw [same]
      rfl }

/-- A plan of an hour and a nanosecond with a pause of any length up to a minute. -/
theorem timely_pause :
    let plan := { Plan.named "pause" with
      schedule := ⟨1, [⟨.ofWholeSeconds 3600, 5⟩, ⟨.ofNanos 1, 0⟩]⟩
      sleep := some (.uniform .zero (.ofWholeSeconds 60)) }
    plan.validate = .ok plan ∧ plan.Timely := by
  intro plan
  have valid : plan.validate = .ok plan := rfl
  exact ⟨valid, timely_of_validate valid⟩

/-- **A valid plan need not have a time between two looks at its thresholds.** -/
theorem interval_pos_of_validate_fails : ¬ ∀ plan : Plan, plan.validate = .ok plan →
    0 < plan.tick.nanos ∧ 0 < plan.thresholdInterval.nanos ∧
      Schedule.ends? .zero plan.schedule.stages =
        some (Schedule.ends .zero plan.schedule.stages) := by
  intro always
  have positive := (always ((Plan.named "watch").withInterval .zero) rfl).2.1
  exact absurd positive (by decide)

end Plan

end LoadTest
