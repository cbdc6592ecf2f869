/-
**Runs that produce load.**

A run has users once one of its ticks asks for some before the schedule is over, and only then: the
first tick behind the schedule stops the run without asking. So a schedule produces load exactly if
it asks for users at a multiple of the tick before its end. Users that are asked for as long as a
tick are enough for that, and so is a stage of two ticks with a target. Shorter stages may pass
between two ticks, and what the last stage reaches at its very end is never asked for.

* `Run.peak_pos_iff`: the tick that brings the first users;
* `Run.Loaded`: when a run produces load;
* `Run.loaded_of_completed`: every run that completes is loaded so;
* `Run.peak_pos_of_completed_fails`: a schedule that asks for a user only at its end.
-/

import LoadTest.Proofs.Plan.Accepted
import LoadTest.Proofs.Run.Cap
import LoadTest.Proofs.Run.VirtualTime

namespace LoadTest

/-! ### Schedules and ticks -/

/-- A span is passed by some multiple of every shorter one. -/
theorem exists_multiple (first : ℕ) {span : ℕ} (lasts : 0 < span) :
    ∃ count, first ≤ count * span ∧ count * span < first + span := by
  refine ⟨(first + span - 1) / span, ?_, ?_⟩
  · have above : first + span - 1 < ((first + span - 1) / span + 1) * span := by
      rw [Nat.mul_comm]
      exact Nat.lt_mul_div_succ _ lasts
    rw [Nat.add_mul] at above
    omega
  · have below := Nat.div_mul_le_self (first + span - 1) span
    omega

/-- A level of a half or more is rounded to a user. -/
theorem floor_half_pos {x : ℚ} (enough : 1 / 2 ≤ x) : 0 < min ⌊x + 1 / 2⌋₊ Decimal.maxWord := by
  refine lt_min ?_ (by decide)
  exact Nat.floor_pos.2 (by linarith)

namespace Schedule

variable {schedule : Schedule} {stage : Stage} {place : ℕ}

/-- In the second half of a stage that has a target the exact schedule asks for users. -/
theorem usersIn_pos (fits : schedule.Fits) (here : schedule.stages[place]? = some stage)
    (aims : 0 < stage.target) {elapsed : Duration}
    (half : 2 * schedule.beginOf place + stage.duration.nanos ≤ 2 * elapsed.nanos)
    (going : elapsed.nanos < schedule.beginOf (place + 1)) :
    0 < schedule.usersIn ℚ elapsed := by
  have span := beginOf_succ here
  have begun : schedule.beginOf place ≤ elapsed.nanos := by omega
  have lasts : (0 : ℚ) < stage.duration.nanos := by
    have positive : 0 < stage.duration.nanos := by omega
    exact_mod_cast positive
  refine floor_half_pos ?_
  rw [targetAt_line fits here begun going]
  have part : (1 : ℚ) / 2 ≤ ((elapsed.nanos : ℚ) - schedule.beginOf place) / stage.duration.nanos := by
    rw [le_div_iff₀ lasts]
    have exact : (2 * schedule.beginOf place + stage.duration.nanos : ℚ) ≤ 2 * elapsed.nanos := by
      exact_mod_cast half
    linarith
  have most : ((elapsed.nanos : ℚ) - schedule.beginOf place) / stage.duration.nanos ≤ 1 := by
    rw [div_le_one lasts]
    have exact : (elapsed.nanos : ℚ) ≤ schedule.beginOf place + stage.duration.nanos := by
      exact_mod_cast (going.trans_eq span).le
    linarith
  have target : (1 : ℚ) ≤ stage.target := by exact_mod_cast aims
  have level : (0 : ℚ) ≤ schedule.levelBefore place := Nat.cast_nonneg _
  generalize ((elapsed.nanos : ℚ) - schedule.beginOf place) / stage.duration.nanos = gone at part most
  have mix : (schedule.levelBefore place : ℚ) + ((stage.target : ℚ) - schedule.levelBefore place) *
      gone = (1 - gone) * schedule.levelBefore place + gone * stage.target := by ring
  have rest : 0 ≤ (1 - gone) * schedule.levelBefore place := mul_nonneg (by linarith) level
  have share : 1 / 2 * 1 ≤ gone * stage.target := mul_le_mul part target (by norm_num) (by linarith)
  linarith

end Schedule

namespace Run

variable {setup : Setup} {run : Run} {now : Duration}

/-! ### The first users -/

/-- A tick before the end of the schedule brings the users that it asks for, or a fault. -/
theorem live_of_tick (counted : Counted setup run) (running : run.phase = .running)
    (early : setup.plan.schedule.isFinished now = false) :
    (∃ fault, (run.turn setup (.happens now .tick)).phase = .faulted fault) ∨
      (run.turn setup (.happens now .tick)).pool.live = setup.usersAt now := by
  have ticked : run.turn setup (.happens now .tick) = run.tick setup now := by
    show run.step setup now .tick = _
    unfold step
    rw [running]
  obtain ⟨samePool, -, -⟩ := announce_frame run setup.plan.schedule now
  rw [ticked]
  unfold tick
  dsimp only
  rw [samePool, early]
  cases told : run.pool.reap.setTarget now setup.plan.maxUsers (setup.usersAt now) with
  | error fault => exact .inl ⟨fault, rfl⟩
  | ok pool =>
    have reaped := run.pool.lessens_reap
    have before : run.pool.reap.size ≤ run.pool.reap.peak := by
      rw [reaped.peak]
      exact reaped.size.trans counted.size
    exact .inr (Pool.told_size before told).2.1

/-- A fault stays. -/
theorem faulted_append {before : List Turn} {fault : PlanFault}
    (faulted : (moment setup before).phase = .faulted fault) (rest : List Turn) :
    (moment setup (before ++ rest)).phase = .faulted fault := by
  induction rest using List.reverseRecOn with
  | nil => rwa [List.append_nil]
  | append_singleton rest turn ih =>
    rw [← List.append_assoc, moment_concat]
    have passes := passes_turn setup (moment setup (before ++ rest)) turn
    generalize ((moment setup (before ++ rest)).turn setup turn).phase = phase at passes
    cases passes with
    | stays same _ => exact same.trans ih
    | stops running _ | faults _ running _ | closes _ running =>
      rw [ih] at running
      contradiction

/-- The first users are brought by a tick. -/
theorem exists_grows_of_peak {turns : List Turn} (peopled : 0 < (moment setup turns).pool.peak) :
    ∃ before now rest, turns = before ++ .happens now .tick :: rest ∧
      Grows setup (moment setup before) now := by
  induction turns using List.reverseRecOn with
  | nil => exact absurd peopled (lt_irrefl 0)
  | append_singleton turns turn ih =>
    have counts := counts_moment setup turns turn
    rcases Nat.eq_zero_or_pos (moment setup turns).pool.peak with none | earlier
    · have size := (counted_moment setup turns).size
      rw [counts.peak, none] at peopled
      obtain ⟨now, rfl, grows, -⟩ := counts.grows (by omega)
      exact ⟨turns, now, [], rfl, grows⟩
    · obtain ⟨before, now, rest, rfl, grows⟩ := ih earlier
      exact ⟨before, now, rest ++ [turn], List.append_assoc _ _ _, grows⟩

/-- **A run that has no fault has users exactly if a tick asked for some**, before the end of the
schedule and while the run went on. -/
theorem peak_pos_iff {turns : List Turn} (unfaulted : (moment setup turns).Unfaulted) :
    0 < (moment setup turns).pool.peak ↔
      ∃ before now rest, turns = before ++ .happens now .tick :: rest ∧
        (moment setup before).phase = .running ∧
          setup.plan.schedule.isFinished now = false ∧ 0 < setup.usersAt now := by
  constructor
  · intro peopled
    obtain ⟨before, now, rest, split, grows⟩ := exists_grows_of_peak peopled
    exact ⟨before, now, rest, split, grows.running, grows.early, Nat.zero_lt_of_lt grows.fewer⟩
  · rintro ⟨before, now, rest, rfl, running, early, asked⟩
    have split : before ++ .happens now .tick :: rest = before ++ [.happens now .tick] ++ rest :=
      List.append_cons before _ rest
    have live := live_of_tick (counted_moment setup before) running early
    rw [← moment_concat] at live
    rcases live with ⟨fault, faulted⟩ | live
    · rw [split] at unfaulted
      exact absurd (faulted_append faulted rest) (unfaulted fault)
    · by_contra none
      have most := (peak_le_iff setup _ 0).1 (Nat.le_of_not_lt none) _ rest split
      rw [Pool.size_add, live] at most
      omega

/-! ### Runs that complete -/

theorem mem_ticksOf {happenings : List (Duration × Happening)} {time : Duration} :
    time ∈ ticksOf happenings ↔ (time, .tick) ∈ happenings := by
  unfold ticksOf
  rw [List.mem_filterMap]
  constructor
  · rintro ⟨⟨other, happening⟩, member, same⟩
    cases happening with
    | tick =>
      obtain rfl := Option.some.inj same
      exact member
    | _ => contradiction
  · exact fun member => ⟨_, member, rfl⟩

/-- What happens, as turns. -/
def turnsOf (happenings : List (Duration × Happening)) : List Turn :=
  happenings.map fun next => .happens next.1 next.2

/-- Of ticks at the multiples of a span, all that are sooner than one come before it. -/
theorem mem_before_of_lt {happenings : List (Duration × Happening)} {count place : ℕ}
    {tick : Duration} (grid : ticksOf happenings = (List.range count).map fun place => .times place tick)
    {before after : List (Duration × Happening)} (split : happenings = before ++ (now, .tick) :: after)
    (sooner : Duration.times place tick < now) : .times place tick ∈ ticksOf before := by
  have ticks : (List.range count).map (fun place => Duration.times place tick) =
      ticksOf before ++ now :: ticksOf after := by
    rw [← grid, split, ticksOf_append]
    rfl
  rw [List.range_eq_range'] at ticks
  obtain ⟨earlier, later, parts, own, others⟩ := List.map_eq_append_iff.1 ticks
  obtain ⟨many, -, rfl, rfl⟩ := List.range'_eq_append_iff.1 parts
  rw [← own]
  refine List.mem_map_of_mem (List.mem_range'_1.2 ⟨Nat.zero_le _, ?_⟩)
  by_contra beyond
  -- The tick itself is the one behind all that are before it.
  cases rest : count - many with
  | zero =>
    rw [rest] at others
    contradiction
  | succ more =>
    rw [rest, List.range'_succ, List.map_cons] at others
    have same : Duration.times (0 + many * 1) tick = now := (List.cons.inj others).1
    have order : Duration.times (0 + many * 1) tick ≤ .times place tick :=
      Duration.times_mono (by omega) tick
    rw [same] at order
    exact absurd sooner (Nat.not_lt_of_le order)

/-- **When a run produces load** that completed, its ticks lying at the multiples of the tick. -/
structure Loaded (setup : Setup) (result : RunResult) : Prop where
  /-- Exactly if users are asked for at a multiple of the tick before the end of the schedule. -/
  asked : 0 < result.peakUsers ↔ ∃ place,
    .times place setup.plan.tick < setup.plan.schedule.total ∧
      0 < setup.usersAt (.times place setup.plan.tick)
  /-- Users that are asked for as long as a tick are enough. -/
  lasting : ∀ first : Duration,
    (∀ time, first ≤ time → time.nanos < first.nanos + setup.plan.tick.nanos →
      time < setup.plan.schedule.total ∧ 0 < setup.usersAt time) → 0 < result.peakUsers
  /-- So is a stage of two ticks that has a target, for the exact schedule. -/
  stage : setup.usersAt = setup.plan.schedule.usersIn ℚ → ∀ stage ∈ setup.plan.schedule.stages,
    0 < stage.target → 2 * setup.plan.tick.nanos ≤ stage.duration.nanos → 0 < result.peakUsers

section Completed

variable {happenings : List (Duration × Happening)} {result : RunResult} {count : ℕ}

theorem moment_turnsOf (setup : Setup) (happenings : List (Duration × Happening)) :
    moment setup (turnsOf happenings) = after setup happenings :=
  moment_happens setup happenings

theorem turnsOf_split {before rest : List Turn} {happening : Happening}
    (split : turnsOf happenings = before ++ .happens now happening :: rest) :
    ∃ earlier later, happenings = earlier ++ (now, happening) :: later ∧ before = turnsOf earlier := by
  obtain ⟨earlier, behind, rfl, own, others⟩ := List.map_eq_append_iff.1 split
  obtain ⟨⟨time, other⟩, later, rfl, same, -⟩ := List.map_eq_cons_iff.1 others
  obtain ⟨rfl, rfl⟩ := Turn.happens.inj same
  exact ⟨earlier, later, rfl, own.symm⟩

/-- **A run that completed asked for users at every multiple of the tick before the end** of its
schedule, so it has users exactly if there were any to ask for. -/
theorem peakUsers_pos_iff
    (grid : ticksOf happenings = (List.range count).map fun place => .times place setup.plan.tick)
    (closed : (after setup happenings).result? = some result)
    (completed : result.status = .completed) :
    0 < result.peakUsers ↔ ∃ place, .times place setup.plan.tick < setup.plan.schedule.total ∧
      0 < setup.usersAt (.times place setup.plan.tick) := by
  rw [← moment_turnsOf] at closed
  have unfaulted : (moment setup (turnsOf happenings)).Unfaulted := by
    intro fault faulted
    rw [result?, faulted] at closed
    contradiction
  rw [(counted_moment setup (turnsOf happenings)).result result closed, peak_pos_iff unfaulted]
  constructor
  · rintro ⟨before, now, rest, split, -, early, asked⟩
    obtain ⟨earlier, later, rfl, -⟩ := turnsOf_split split
    have member : now ∈ ticksOf (earlier ++ (now, .tick) :: later) :=
      mem_ticksOf.2 (List.mem_append_right _ List.mem_cons_self)
    rw [grid] at member
    obtain ⟨place, -, rfl⟩ := List.mem_map.1 member
    exact ⟨place, Nat.lt_of_not_le (of_decide_eq_false early), asked⟩
  · rintro ⟨place, inTime, asked⟩
    have status := status_of_result closed
    rw [completed] at status
    obtain ⟨before, now, happening, rest, split, running, stops⟩ := stopped_of_status status
    cases stops with
    | finished ended =>
      obtain ⟨earlier, later, parts, rfl⟩ := turnsOf_split split
      have sooner : Duration.times place setup.plan.tick < now :=
        Nat.lt_of_lt_of_le inTime (of_decide_eq_true ended)
      obtain ⟨first, second, rfl⟩ :=
        List.append_of_mem (mem_ticksOf.1 (mem_before_of_lt grid parts sooner))
      have tickEarlier : turnsOf (first ++ (.times place setup.plan.tick, .tick) :: second) =
          turnsOf first ++ .happens (.times place setup.plan.tick) .tick :: turnsOf second :=
        List.map_append
      refine ⟨turnsOf first, _, turnsOf second ++ .happens now .tick :: rest, ?_,
        (unstopped_of_running running tickEarlier).1, ?_, asked⟩
      · rw [split, tickEarlier, List.append_assoc]
        rfl
      · exact decide_eq_false (Nat.not_le_of_lt inTime)

/-- **A run that completed is loaded so.** -/
theorem loaded_of_ticks (checked : setup.plan.Checked)
    (grid : ticksOf happenings = (List.range count).map fun place => .times place setup.plan.tick)
    (closed : (after setup happenings).result? = some result)
    (completed : result.status = .completed) : Loaded setup result := by
  have asked := peakUsers_pos_iff grid closed completed
  have ticks : 0 < setup.plan.tick.nanos := by
    simpa [Duration.isZero, Nat.pos_iff_ne_zero] using checked.ticks
  have lasting : ∀ first : Duration,
      (∀ time, first ≤ time → time.nanos < first.nanos + setup.plan.tick.nanos →
        time < setup.plan.schedule.total ∧ 0 < setup.usersAt time) → 0 < result.peakUsers := by
    intro first during
    obtain ⟨place, reached, soon⟩ := exists_multiple first.nanos ticks
    have nanos : (Duration.times place setup.plan.tick).nanos =
        min (place * setup.plan.tick.nanos) Duration.longest.nanos := Duration.nanos_ofNanos_min _
    refine asked.2 ⟨place, during _ ?_ ?_⟩
    · show first.nanos ≤ _
      rw [nanos]
      exact le_min reached first.nanos_le_longest
    · rw [nanos]
      exact (min_le_left _ _).trans_lt soon
  refine ⟨asked, lasting, fun exact stage member aims long => ?_⟩
  obtain ⟨place, here⟩ := List.mem_iff_getElem?.1 member
  have fits := Plan.fits_of_checked checked
  have span := Schedule.beginOf_succ here
  have inside : setup.plan.schedule.beginOf (place + 1) ≤
      Schedule.spanOf setup.plan.schedule.stages := by
    rw [← Schedule.beginOf_length]
    exact Schedule.beginOf_mono _ (List.getElem?_eq_some_iff.1 here).1
  -- Users are asked for from the middle of the stage to its end.
  have middle : (Duration.ofNanos (setup.plan.schedule.beginOf place +
      (stage.duration.nanos + 1) / 2)).nanos =
        setup.plan.schedule.beginOf place + (stage.duration.nanos + 1) / 2 := by
    refine Duration.nanos_ofNanos (le_trans ?_ fits)
    omega
  refine lasting (.ofNanos (setup.plan.schedule.beginOf place + (stage.duration.nanos + 1) / 2)) ?_
  intro time begun soon
  have half : (Duration.ofNanos (setup.plan.schedule.beginOf place +
      (stage.duration.nanos + 1) / 2)).nanos ≤ time.nanos := begun
  rw [middle] at soon half
  have going : time.nanos < setup.plan.schedule.beginOf (place + 1) := by omega
  constructor
  · show time.nanos < setup.plan.schedule.total.nanos
    rw [Schedule.nanos_total_of_fits fits]
    omega
  · rw [exact]
    exact Schedule.usersIn_pos fits here aims (by omega) going

end Completed

/-- **Every run that completes is loaded so**, whatever its users do: whether its ticks just lie at
the multiples of the tick of a valid plan, or it is played in virtual time. -/
theorem loaded_of_completed (setup : Setup) (valid : setup.plan.validate = .ok setup.plan) :
    (∀ (happenings : List (Duration × Happening)) (count : ℕ) (result : RunResult),
      (ticksOf happenings = (List.range count).map fun place => .times place setup.plan.tick) →
      (after setup happenings).result? = some result → result.status = .completed →
        Loaded setup result) ∧
    ∀ (server : Outgoing → Reply) (most : ℕ) (result : RunResult),
      (Timeline.play setup server most (.ofPlan setup.plan) .zero (start setup)).result? =
        some result → result.status = .completed → Loaded setup result := by
  have checked := (Plan.checked_of_validate valid).2
  refine ⟨fun happenings count result grid closed completed =>
    loaded_of_ticks checked grid closed completed, fun server most result closed completed => ?_⟩
  obtain ⟨count, grid⟩ := Timeline.ticksOf_played setup server most
  rw [Timeline.play_ofPlan] at closed
  exact loaded_of_ticks checked grid closed completed

/-- A plan of one stage and a scenario of iterations that sleep for 50 milliseconds. -/
def ramping (first last : ℕ) (span : Duration) : Setup :=
  .of { Plan.named "ramp" with
    schedule := ⟨first, [⟨span, last⟩]⟩
    sleep := some (.fixed (.ofWholeSeconds 1)) } fun _ _ => .sleep (.ofMillis 50) (.finish none)

/-- A ramp of three ticks up to a user. -/
theorem loaded_three_ticks :
    let setup := ramping 0 1 (.ofMillis 300)
    setup.plan.validate = .ok setup.plan ∧ ∃ result,
      (Timeline.play setup (fun _ => .response 200 [] [] .zero) 20 (.ofPlan setup.plan) .zero
        (start setup)).result? = some result ∧
      result.status = .completed ∧ Loaded setup result := by
  intro setup
  have valid : setup.plan.validate = .ok setup.plan := rfl
  have played : (Timeline.play setup (fun _ => .response 200 [] [] .zero) 20 (.ofPlan setup.plan)
      .zero (start setup)).result?.map RunResult.status = some .completed := by
    decide +kernel
  obtain ⟨result, closed, completed⟩ := Option.map_eq_some_iff.1 played
  exact ⟨valid, result, closed, completed, (loaded_of_completed setup valid).2 _ _ _ closed completed⟩

/-- **A schedule that asks for a user only at its end produces no load**: the tick there finds the
schedule over. -/
theorem peak_pos_of_completed_fails :
    ¬ ∀ (setup : Setup) (server : Outgoing → Reply) (most : ℕ) (result : RunResult),
      setup.plan.validate = .ok setup.plan → setup.usersAt = setup.plan.schedule.usersAt →
      0 < setup.plan.schedule.total.nanos →
      (∃ stage ∈ setup.plan.schedule.stages, 0 < stage.target) →
      (∃ time, time ≤ setup.plan.schedule.total ∧ 0 < setup.usersAt time) →
      (Timeline.play setup server most (.ofPlan setup.plan) .zero (start setup)).result? =
        some result → result.status = .completed → 0 < result.peakUsers := by
  intro always
  let setup := ramping 0 1 (.ofMillis 100)
  have played : (Timeline.play setup (fun _ => .response 200 [] [] .zero) 5 (.ofPlan setup.plan)
      .zero (start setup)).result?.map (fun result => (result.status, result.peakUsers)) =
        some (.completed, 0) := by
    decide +kernel
  obtain ⟨result, closed, same⟩ := Option.map_eq_some_iff.1 played
  obtain ⟨completed, none⟩ := Prod.mk.inj same
  have asked : 0 < setup.usersAt (.ofMillis 100) := by decide +kernel
  have peopled := always setup _ 5 result rfl rfl (by decide +kernel)
    ⟨⟨.ofMillis 100, 1⟩, List.mem_cons_self, Nat.one_pos⟩
    ⟨.ofMillis 100, by decide +kernel, asked⟩ closed completed
  omega

end Run

end LoadTest
