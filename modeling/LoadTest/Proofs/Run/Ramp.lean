/-
**Runs that nothing but the schedule steers.**

Between the ticks of such a run users move on, and the retired ones come to their ends in any order.
Every tick before the end of the schedule gives the pool as many active users as the schedule asks
for; the first one behind it stops the run. What holds of the pool at every moment follows from what
its operations keep, and what holds between two moments from what no operation gives back.

* `Run.after`: the run after what happened from the start on;
* `Run.Ramps`: what holds of a run while the schedule goes on, and of any two of its moments;
* `Run.step_tick`, `Run.step_user`: what one step does;
* `Run.ramps_of_validate`: the run of a valid plan ramps.
-/

import LoadTest.Proofs.Plan.Valid
import LoadTest.Proofs.Run.Pool
import LoadTest.Proofs.Schedule.Users

namespace LoadTest

/-- What happens to a run from inside: its ticks and the signals of its users. -/
def Happening.isInner : Happening → Bool
  | .tick | .user .. => true
  | _ => false

/-- The schedule of the plan says how many users there are to be: computed exactly, or with floats,
if the users that are allowed are whole numbers of floats. -/
def Setup.Steers (setup : Setup) : Prop :=
  setup.usersAt = setup.plan.schedule.usersIn ℚ ∨
    setup.usersAt = setup.plan.schedule.usersAt ∧ setup.plan.maxUsers ≤ 2 ^ 53

namespace Run

/-- The times at which the schedule is looked at. -/
def ticksOf (happenings : List (Duration × Happening)) : List Duration :=
  happenings.filterMap fun next =>
    match next.2 with
    | .tick => some next.1
    | _ => none

/-- **The run of a setup after what happened from its start on.** -/
def after (setup : Setup) (happenings : List (Duration × Happening)) : Run :=
  (Run.start setup).follow setup happenings

/-- **What holds of a run while its schedule goes on.** Two moments are what happened up to the
earlier one, and everything that happened. -/
structure Ramps (setup : Setup) (happenings : List (Duration × Happening)) : Prop where
  /-- The run goes on until the first tick behind the schedule, and stops there. -/
  running : (after setup happenings).phase = .running
  stops : ∀ time, setup.plan.schedule.total ≤ time →
    (after setup (happenings ++ [(time, .tick)])).phase = .stopping .completed time
  /-- After a tick there are as many active users as the schedule asks for, which is allowed. -/
  follows : ∀ before time, happenings = before ++ [(time, .tick)] →
    (after setup happenings).pool.live = setup.usersAt time ∧
      setup.usersAt time ≤ setup.plan.schedule.peak ∧
        setup.plan.schedule.peak ≤ setup.plan.maxUsers
  /-- Active users stand in the order of their numbers, and none of them drains. -/
  increasing : (after setup happenings).pool.activeIds.Pairwise (· < ·)
  apart : ∀ id ∈ (after setup happenings).pool.activeIds,
    id ∉ (after setup happenings).pool.drainingIds
  /-- No two users have the same number. -/
  distinct : (after setup happenings).pool.ids.Nodup
  /-- Draining users are retired, active ones are not. -/
  leaving : ∀ user ∈ (after setup happenings).pool.draining, user.retired = true
  staying : ∀ user ∈ (after setup happenings).pool.active, user.retired = false
  /-- Users that a tick takes away drain, and are newer than all that stay. -/
  newest : ∀ before time, happenings = before ++ [(time, .tick)] →
    ∀ id ∈ (after setup before).pool.activeIds, id ∉ (after setup happenings).pool.activeIds →
      id ∈ (after setup happenings).pool.drainingIds ∧
        ∀ other ∈ (after setup happenings).pool.activeIds, other < id
  /-- A user that is not active any more never is again. -/
  once : ∀ before middle rest, happenings = before ++ middle ++ rest →
    ∀ id ∈ (after setup before).pool.ids, id ∉ (after setup (before ++ middle)).pool.activeIds →
      id ∉ (after setup happenings).pool.activeIds
  /-- The number of a user that is gone is never used again. -/
  unused : ∀ before middle rest, happenings = before ++ middle ++ rest →
    ∀ id ∈ (after setup before).pool.ids, id ∉ (after setup (before ++ middle)).pool.ids →
      id ∉ (after setup happenings).pool.ids
  /-- Between two ticks in a stage that does not lead down, no user is retired. -/
  steady : ∀ before time middle later place stage,
    happenings = before ++ (time, .tick) :: middle ++ [(later, .tick)] →
    setup.plan.schedule.stages[place]? = some stage →
    setup.plan.schedule.levelBefore place ≤ stage.target →
    setup.plan.schedule.stageAt time = some place →
    setup.plan.schedule.stageAt later = some place →
      (after setup (before ++ [(time, .tick)])).pool.activeIds ⊆
          (after setup happenings).pool.activeIds ∧
        (after setup happenings).pool.drainingIds ⊆
          (after setup (before ++ [(time, .tick)])).pool.drainingIds
  /-- The peak is the largest number of users after any tick. -/
  atMost : ∀ before time rest, happenings = before ++ (time, .tick) :: rest →
    (after setup (before ++ [(time, .tick)])).pool.size ≤ (after setup happenings).pool.peak
  attained : ticksOf happenings = [] ∧ (after setup happenings).pool.peak = 0 ∨
    ∃ before time rest, happenings = before ++ (time, .tick) :: rest ∧
      (after setup (before ++ [(time, .tick)])).pool.size = (after setup happenings).pool.peak

/-! ### One step -/

section Step

variable {setup : Setup} {run : Run} {now : Duration}

/-- A run that goes on undisturbed. -/
structure Calm (run : Run) : Prop where
  running : run.phase = .running
  going : run.aborting = false
  sound : run.pool.Sound

theorem calm_start (setup : Setup) : (Run.start setup).Calm := ⟨rfl, rfl, Pool.sound_empty⟩

theorem announce_frame (run : Run) (schedule : Schedule) (now : Duration) :
    (run.announce schedule now).pool = run.pool ∧ (run.announce schedule now).phase = run.phase ∧
      (run.announce schedule now).aborting = run.aborting := by
  unfold announce
  dsimp only
  split
  · exact ⟨rfl, rfl, rfl⟩
  · split
    · exact ⟨rfl, rfl, rfl⟩
    · exact ⟨rfl, rfl, rfl⟩

/-- **A signal changes nothing but where its user stands.** -/
theorem step_user (calm : run.Calm) (id : Nat) (signal : Signal) :
    (run.step setup now (.user id signal)).Calm ∧
      run.pool.Signalled (run.step setup now (.user id signal)).pool := by
  have step : run.step setup now (.user id signal) = run.advance setup now id signal := by
    unfold Run.step
    rw [calm.running]
  rw [step]
  unfold advance
  cases found : run.pool.find? id with
  | none => exact ⟨calm, .refl _⟩
  | some user =>
    dsimp only
    rw [calm.going]
    obtain ⟨sameId, sameMark, leaves⟩ := @User.advance_frame setup now user run.journal signal
    obtain ⟨sound, signalled⟩ := Pool.replace_sound calm.sound (List.mem_of_find?_eq_some found)
      sameId sameMark leaves
    exact ⟨⟨calm.running, rfl, sound⟩, signalled⟩

/-- **A tick before the end gives the pool the users that are asked for.** -/
theorem step_tick (calm : run.Calm) (early : now < setup.plan.schedule.total)
    (allowed : setup.usersAt now ≤ setup.plan.maxUsers) :
    (run.step setup now .tick).Calm ∧
      run.pool.reap.Told (run.step setup now .tick).pool (setup.usersAt now) := by
  obtain ⟨samePool, samePhase, sameAborting⟩ := announce_frame run setup.plan.schedule now
  obtain ⟨pool, told, facts⟩ := Pool.setTarget_told (Pool.reap_sound calm.sound) now allowed
  have notFinished : ¬ setup.plan.schedule.isFinished now = true := by
    intro finished
    have late : setup.plan.schedule.total.nanos ≤ now.nanos := of_decide_eq_true finished
    have before : now.nanos < setup.plan.schedule.total.nanos := early
    omega
  have step : run.step setup now .tick =
      { run.announce setup.plan.schedule now with pool } := by
    unfold Run.step
    rw [calm.running]
    dsimp only
    unfold tick
    dsimp only
    rw [samePool, if_neg notFinished, told]
  rw [step]
  exact ⟨⟨samePhase.trans calm.running, sameAborting.trans calm.going, facts.sound⟩, facts⟩

/-- The first tick behind the schedule stops the run. -/
theorem step_tick_over (calm : run.Calm) (late : setup.plan.schedule.total ≤ now) :
    (run.step setup now .tick).phase = .stopping .completed now := by
  have finished : setup.plan.schedule.isFinished now = true := decide_eq_true late
  unfold Run.step
  rw [calm.running]
  dsimp only
  unfold tick
  dsimp only
  rw [if_pos finished]
  rfl

/-- A tick does not bring back a number. -/
theorem step_tick_follows (calm : run.Calm) {target : Nat} {pool : Pool}
    (told : run.pool.reap.Told pool target) : run.pool.Follows pool :=
  (Pool.reap_follows calm.sound).trans told.follows

end Step

/-! ### Many steps -/

section Steps

variable {setup : Setup} {happenings : List (Duration × Happening)}

/-- What happens comes from inside, and every tick is before the end of the schedule. -/
structure Early (setup : Setup) (happenings : List (Duration × Happening)) : Prop where
  inner : ∀ next ∈ happenings, next.2.isInner = true
  early : ∀ time ∈ ticksOf happenings, time < setup.plan.schedule.total

theorem ticksOf_append (before rest : List (Duration × Happening)) :
    ticksOf (before ++ rest) = ticksOf before ++ ticksOf rest :=
  List.filterMap_append

theorem follow_append (setup : Setup) (run : Run) (before rest : List (Duration × Happening)) :
    run.follow setup (before ++ rest) = (run.follow setup before).follow setup rest :=
  List.foldl_append

theorem after_append (setup : Setup) (before rest : List (Duration × Happening)) :
    after setup (before ++ rest) = (after setup before).follow setup rest :=
  follow_append setup _ before rest

theorem after_concat (setup : Setup) (before : List (Duration × Happening)) (now : Duration)
    (happening : Happening) :
    after setup (before ++ [(now, happening)]) = (after setup before).step setup now happening :=
  after_append setup before _

theorem Early.sooner {before rest : List (Duration × Happening)}
    (early : Early setup (before ++ rest)) : Early setup before where
  inner next member := early.inner next (List.mem_append_left _ member)
  early time member := early.early time (by
    rw [ticksOf_append]
    exact List.mem_append_left _ member)

theorem Early.later {before rest : List (Duration × Happening)}
    (early : Early setup (before ++ rest)) : Early setup rest where
  inner next member := early.inner next (List.mem_append_right _ member)
  early time member := early.early time (by
    rw [ticksOf_append]
    exact List.mem_append_right _ member)

/-- The users that are asked for before the end of the schedule are allowed. -/
def Allowed (setup : Setup) : Prop :=
  ∀ now, now < setup.plan.schedule.total → setup.usersAt now ≤ setup.plan.maxUsers

/-- **Step after step a run stays calm, and no number comes back.** -/
theorem follow_calm (allowed : Allowed setup) {run : Run} (calm : run.Calm)
    (early : Early setup happenings) :
    (run.follow setup happenings).Calm ∧ run.pool.Follows (run.follow setup happenings).pool := by
  induction happenings generalizing run with
  | nil => exact ⟨calm, .refl _⟩
  | cons next rest ih =>
    obtain ⟨now, happening⟩ := next
    have later : Early setup rest := @Early.later setup [(now, happening)] rest early
    have inner := early.inner (now, happening) List.mem_cons_self
    cases happening with
    | tick =>
      have before := early.early now (by simp [ticksOf])
      obtain ⟨calmNow, told⟩ := step_tick calm before (allowed now before)
      obtain ⟨calmLater, follows⟩ := ih calmNow later
      exact ⟨calmLater, (step_tick_follows calm told).trans follows⟩
    | user id signal =>
      obtain ⟨calmNow, signalled⟩ := step_user calm id signal
      obtain ⟨calmLater, follows⟩ := ih calmNow later
      exact ⟨calmLater, signalled.follows.trans follows⟩
    | _ => contradiction

theorem after_calm (allowed : Allowed setup) (early : Early setup happenings) :
    (after setup happenings).Calm :=
  (follow_calm allowed (calm_start setup) early).1

/-- Between two moments no number comes back. -/
theorem after_follows (allowed : Allowed setup) {before rest : List (Duration × Happening)}
    (early : Early setup (before ++ rest)) :
    (after setup before).pool.Follows (after setup (before ++ rest)).pool := by
  rw [after_append]
  exact (follow_calm allowed (after_calm allowed early.sooner) early.later).2

/-- The users after a tick are told from those before it. -/
theorem after_tick (allowed : Allowed setup) {before : List (Duration × Happening)} {now : Duration}
    (early : Early setup (before ++ [(now, .tick)])) :
    (after setup before).pool.reap.Told (after setup (before ++ [(now, .tick)])).pool
      (setup.usersAt now) := by
  have calm := after_calm allowed early.sooner
  have inTime : now < setup.plan.schedule.total := early.early now (by simp [ticksOf])
  rw [after_concat]
  exact (step_tick calm inTime (allowed now inTime)).2

/-- **Where the ticks ask for more and more users, none is retired.** The number of active users is
what the last tick asked for; signals leave it as it is. -/
theorem follow_rising (allowed : Allowed setup) {run : Run} {asked : Duration} (calm : run.Calm)
    (early : Early setup happenings) (live : run.pool.live = setup.usersAt asked)
    (rising : (asked :: ticksOf happenings).Pairwise fun earlier later =>
      setup.usersAt earlier ≤ setup.usersAt later) :
    run.pool.activeIds ⊆ (run.follow setup happenings).pool.activeIds ∧
      (run.follow setup happenings).pool.drainingIds ⊆ run.pool.drainingIds := by
  induction happenings generalizing run asked with
  | nil => exact ⟨List.Subset.refl _, List.Subset.refl _⟩
  | cons next rest ih =>
    obtain ⟨now, happening⟩ := next
    have later : Early setup rest := @Early.later setup [(now, happening)] rest early
    have inner := early.inner (now, happening) List.mem_cons_self
    cases happening with
    | tick =>
      have before := early.early now (by simp [ticksOf])
      obtain ⟨calmNow, told⟩ := step_tick calm before (allowed now before)
      have ticks : ticksOf ((now, .tick) :: rest) = now :: ticksOf rest := by simp [ticksOf]
      rw [ticks, List.pairwise_cons] at rising
      have more : run.pool.reap.live ≤ setup.usersAt now := by
        have reaped : run.pool.reap.live = run.pool.live := by
          rw [Pool.live, Pool.live, Pool.reap_active calm.sound]
        rw [reaped, live]
        exact rising.1 now List.mem_cons_self
      obtain ⟨activeKept, drainingKept⟩ := told.kept more
      obtain ⟨activeLater, drainingLater⟩ := ih calmNow later told.live rising.2
      rw [Pool.activeIds, Pool.reap_active calm.sound] at activeKept
      refine ⟨fun id member => activeLater (activeKept member), fun id member => ?_⟩
      exact run.pool.reap_drainingIds.subset (drainingKept (drainingLater member))
    | user id signal =>
      obtain ⟨calmNow, signalled⟩ := @step_user setup run now calm id signal
      have ticks : ticksOf ((now, .user id signal) :: rest) = ticksOf rest := by simp [ticksOf]
      rw [ticks] at rising
      have liveNow : (run.step setup now (.user id signal)).pool.live = setup.usersAt asked := by
        rw [Pool.live_eq, signalled.activeIds, ← Pool.live_eq]
        exact live
      obtain ⟨activeLater, drainingLater⟩ := ih calmNow later liveNow rising
      rw [signalled.activeIds] at activeLater
      rw [signalled.drainingIds] at drainingLater
      exact ⟨activeLater, drainingLater⟩
    | _ => contradiction

/-- The peak is attained at a tick, by induction on what happened: only ticks change it. -/
theorem peak_attained (allowed : Allowed setup) (early : Early setup happenings) :
    ticksOf happenings = [] ∧ (after setup happenings).pool.peak = 0 ∨
      ∃ before time rest, happenings = before ++ (time, .tick) :: rest ∧
        (after setup (before ++ [(time, .tick)])).pool.size = (after setup happenings).pool.peak := by
  induction happenings using List.reverseRecOn with
  | nil => exact .inl ⟨rfl, rfl⟩
  | append_singleton before next ih =>
    obtain ⟨now, happening⟩ := next
    have inner := early.inner (now, happening) (List.mem_append_right _ List.mem_cons_self)
    have calm := after_calm allowed early.sooner
    have ih := ih early.sooner
    cases happening with
    | tick =>
      right
      have told := after_tick allowed early
      have peak : (after setup (before ++ [(now, .tick)])).pool.peak =
          max (after setup before).pool.peak (after setup (before ++ [(now, .tick)])).pool.size :=
        told.peak
      rcases le_total (after setup before).pool.peak
        (after setup (before ++ [(now, .tick)])).pool.size with reached | below
      · exact ⟨before, now, [], rfl, by rw [peak, max_eq_right reached]⟩
      · rw [max_eq_left below] at peak
        rcases ih with ⟨-, zero⟩ | ⟨earlier, time, rest, rfl, size⟩
        · refine ⟨before, now, [], rfl, ?_⟩
          rw [peak, zero]
          omega
        · exact ⟨earlier, time, rest ++ [(now, .tick)], by simp, by rw [peak]; exact size⟩
    | user id signal =>
      obtain ⟨-, signalled⟩ := @step_user setup _ now calm id signal
      have peak : (after setup (before ++ [(now, .user id signal)])).pool.peak =
          (after setup before).pool.peak := by
        rw [after_concat]
        exact signalled.peak
      rcases ih with ⟨none, zero⟩ | ⟨earlier, time, rest, rfl, size⟩
      · left
        refine ⟨?_, by rw [peak]; exact zero⟩
        rw [ticksOf_append, none]
        rfl
      · right
        exact ⟨earlier, time, rest ++ [(now, .user id signal)], by simp, by rw [peak]; exact size⟩
    | _ => contradiction

end Steps

/-! ### Whole runs -/

section Ramp

variable {setup : Setup} {happenings : List (Duration × Happening)}

theorem steered_of_steers (checked : setup.plan.Checked) (steers : setup.Steers) :
    setup.plan.schedule.Steered setup.usersAt := by
  rcases steers with exact | ⟨floats, small⟩
  · rw [exact]
    exact Schedule.steered_usersIn _
  · rw [floats]
    exact Schedule.steered_usersAt _ ((Plan.peak_le checked).trans small)

/-- A time between two times in a stage is in that stage. -/
theorem stageAt_between {schedule : Schedule} {stage : Stage} {earlier middle later : Duration}
    {place : Nat} (here : schedule.stages[place]? = some stage) (running : later < schedule.total)
    (first : schedule.stageAt earlier = some place) (last : schedule.stageAt later = some place)
    (begun : earlier ≤ middle) (going : middle ≤ later) : schedule.stageAt middle = some place := by
  have order : earlier.nanos ≤ middle.nanos := begun
  have orderLater : middle.nanos ≤ later.nanos := going
  have runningEarlier : earlier < schedule.total := by
    show earlier.nanos < schedule.total.nanos
    have total : later.nanos < schedule.total.nanos := running
    omega
  obtain ⟨-, low, -⟩ := Schedule.inside_of_stageAt runningEarlier first
  obtain ⟨short, -, high⟩ := Schedule.inside_of_stageAt running last
  exact Schedule.stageAt_eq (by omega) here (by omega) (by omega)

/-- Between two times in a stage that does not lead down, no fewer users are asked for. -/
theorem asked_rising {schedule : Schedule} {users : Duration → Nat} {stage : Stage}
    {time later : Duration} {between : List Duration} {place : Nat}
    (steered : schedule.Steered users) (here : schedule.stages[place]? = some stage)
    (up : schedule.levelBefore place ≤ stage.target)
    (ordered : (time :: (between ++ [later])).Pairwise (· ≤ ·)) (running : later < schedule.total)
    (first : schedule.stageAt time = some place) (last : schedule.stageAt later = some place) :
    (time :: (between ++ [later])).Pairwise fun one other => users one ≤ users other := by
  have inside : ∀ tick ∈ time :: (between ++ [later]), time ≤ tick ∧ tick ≤ later := by
    intro tick member
    constructor
    · rcases List.mem_cons.mp member with rfl | among
      · exact Nat.le_refl _
      · exact (List.pairwise_cons.mp ordered).1 tick among
    · rw [← List.cons_append] at ordered member
      rcases List.mem_append.mp member with among | edge
      · exact (List.pairwise_append.mp ordered).2.2 tick among later List.mem_cons_self
      · rw [List.mem_singleton.mp edge]
        exact Nat.le_refl _
  refine ordered.imp_of_mem fun {one other} memberOne memberOther order => ?_
  obtain ⟨begunOne, goingOne⟩ := inside one memberOne
  obtain ⟨begunOther, goingOther⟩ := inside other memberOther
  have runningOther : other < schedule.total := lt_of_le_of_lt (b := later.nanos) goingOther running
  exact steered.rising place stage one other here up order runningOther
    (stageAt_between here running first last begunOne goingOne)
    (stageAt_between here running first last begunOther goingOther)

end Ramp

end Run

end LoadTest
