/-
**The users that a schedule asks for.**

The number of users is the curve, rounded. As long as all levels are at most `2 ^ 53`, rounding on
the way does not lead the curve out of the levels of its stage, and does not turn a rise into a
fall: every step is monotone and keeps whole numbers. The exact curve needs no such bound.

* `Schedule.Steered`: users that stay below the peak, and do not become fewer while a stage rises;
* `Schedule.steered_usersAt`: the users computed with floats, if all levels are small;
* `Schedule.steered_usersIn`: the users computed exactly.
-/

import LoadTest.Proofs.Duration.Seconds
import LoadTest.Proofs.Float.Whole
import LoadTest.Proofs.Schedule.Curve

namespace LoadTest

open Rounding Decimal

namespace Schedule

/-- **Users that follow the stages of a schedule** until it is over. -/
structure Steered (schedule : Schedule) (users : Duration → Nat) : Prop where
  /-- They are at most the peak. -/
  atMost : ∀ elapsed, elapsed < schedule.total → users elapsed ≤ schedule.peak
  /-- They do not become fewer inside a stage that leads up or stays level. -/
  rising : ∀ place stage earlier later, schedule.stages[place]? = some stage →
    schedule.levelBefore place ≤ stage.target → earlier ≤ later → later < schedule.total →
    schedule.stageAt earlier = some place → schedule.stageAt later = some place →
      users earlier ≤ users later

/-! ### Users on the lines of stages -/

/-- A level at most a whole number is rounded to at most it. -/
theorem floor_half_le {x : ℚ} {n : ℕ} (below : x ≤ n) : min ⌊x + 1 / 2⌋₊ maxWord ≤ n := by
  apply (Nat.min_le_left _ _).trans
  apply Nat.lt_succ_iff.mp
  apply Nat.floor_lt' (Nat.succ_ne_zero n) |>.mpr
  push_cast
  linarith

variable {schedule : Schedule} {stage : Stage} {place : Nat} {elapsed : Duration}

/-- A time before the end of a schedule is inside a stage, and before the longest span. -/
theorem exists_stage_of_running (running : elapsed < schedule.total) :
    elapsed.nanos < Duration.longest.nanos ∧
      ∃ place stage, schedule.stages[place]? = some stage ∧
        schedule.beginOf place ≤ elapsed.nanos ∧ elapsed.nanos < schedule.beginOf (place + 1) := by
  have before : elapsed.nanos < min (spanOf schedule.stages) Duration.longest.nanos := by
    rw [← nanos_total]
    exact running
  obtain ⟨within, short⟩ := lt_min_iff.mp before
  exact ⟨short, exists_stage within⟩

/-- Where a stage goes on, it has begun and is not over. -/
theorem inside_of_stageAt (running : elapsed < schedule.total)
    (here : schedule.stageAt elapsed = some place) :
    elapsed.nanos < Duration.longest.nanos ∧ schedule.beginOf place ≤ elapsed.nanos ∧
      elapsed.nanos < schedule.beginOf (place + 1) := by
  obtain ⟨short, found, stage, there, begun, going⟩ := exists_stage_of_running running
  rw [stageAt_eq short there begun going] at here
  obtain rfl : found = place := Option.some.inj here
  exact ⟨short, begun, going⟩

/-- **Users on lines that stay between the ends of their stages and rise with them.** -/
theorem Steered.of_line {users : Duration → Nat} (line : Nat → Stage → Duration → ℚ)
    (drawn : ∀ place stage elapsed, schedule.stages[place]? = some stage →
      elapsed.nanos < Duration.longest.nanos → schedule.beginOf place ≤ elapsed.nanos →
      elapsed.nanos < schedule.beginOf (place + 1) →
        users elapsed = min ⌊line (schedule.levelBefore place) stage
          (.ofNanos (elapsed.nanos - schedule.beginOf place)) + 1 / 2⌋₊ maxWord)
    (between : ∀ (level : Nat) (stage : Stage) gone, level ≤ schedule.peak →
      stage.target ≤ schedule.peak → gone < stage.duration →
        line level stage gone ≤ max level stage.target)
    (rises : ∀ (level : Nat) (stage : Stage) gone later, stage.target ≤ schedule.peak →
      level ≤ stage.target → gone ≤ later → later < stage.duration →
        line level stage gone ≤ line level stage later) :
    schedule.Steered users where
  atMost elapsed running := by
    obtain ⟨short, place, stage, here, begun, going⟩ := exists_stage_of_running running
    have level := (levelBefore_between (List.getElem?_eq_some_iff.mp here).1.le).2
    have target := (target_between here).2
    have inside : (Duration.ofNanos (elapsed.nanos - schedule.beginOf place)) < stage.duration := by
      show (Duration.ofNanos (elapsed.nanos - schedule.beginOf place)).nanos < stage.duration.nanos
      rw [Duration.nanos_ofNanos (by omega)]
      rw [beginOf_succ here] at going
      omega
    have below := between (schedule.levelBefore place) stage _ level target inside
    rw [drawn place stage elapsed here short begun going]
    apply floor_half_le
    refine below.trans ?_
    exact_mod_cast max_le level target
  rising place stage earlier later here up order running hereEarlier hereLater := by
    obtain ⟨short, begun, going⟩ := inside_of_stageAt running hereLater
    have runningEarlier : earlier < schedule.total := lt_of_le_of_lt (b := later.nanos) order running
    obtain ⟨shortEarlier, begunEarlier, goingEarlier⟩ := inside_of_stageAt runningEarlier hereEarlier
    have nanos : earlier.nanos ≤ later.nanos := order
    have span := beginOf_succ here
    have gone : Duration.ofNanos (earlier.nanos - schedule.beginOf place) ≤
        Duration.ofNanos (later.nanos - schedule.beginOf place) := by
      show (Duration.ofNanos _).nanos ≤ (Duration.ofNanos _).nanos
      rw [Duration.nanos_ofNanos (by omega), Duration.nanos_ofNanos (by omega)]
      omega
    have inside : Duration.ofNanos (later.nanos - schedule.beginOf place) < stage.duration := by
      show (Duration.ofNanos _).nanos < stage.duration.nanos
      rw [Duration.nanos_ofNanos (by omega)]
      omega
    have rise := rises (schedule.levelBefore place) stage _ _ (target_between here).2 up gone inside
    rw [drawn place stage earlier here shortEarlier begunEarlier goingEarlier,
      drawn place stage later here short begun going]
    exact min_le_min_right _ (Nat.floor_mono (by linarith))

/-! ### The exact line -/

/-- The line of a stage. -/
def exactLine (level : Nat) (stage : Stage) (gone : Duration) : ℚ :=
  level + ((stage.target : ℚ) - level) * (gone.nanos / stage.duration.nanos)

/-- **The users computed exactly follow the schedule.** -/
theorem steered_usersIn (schedule : Schedule) : schedule.Steered (schedule.usersIn ℚ) := by
  have part : ∀ {gone : Duration} {stage : Stage}, gone < stage.duration →
      (0 : ℚ) < stage.duration.nanos ∧ (gone.nanos : ℚ) / stage.duration.nanos ≤ 1 := by
    intro gone stage going
    have nanos : gone.nanos < stage.duration.nanos := going
    have cast : (gone.nanos : ℚ) < stage.duration.nanos := by exact_mod_cast nanos
    have positive : (0 : ℚ) < stage.duration.nanos := lt_of_le_of_lt (Nat.cast_nonneg _) cast
    exact ⟨positive, (div_le_one positive).mpr cast.le⟩
  refine Steered.of_line exactLine ?_ ?_ ?_
  · intro place stage elapsed here short begun going
    show min (schedule.targetAt elapsed + 1 / 2 : ℚ).floor.toNat maxWord = _
    rw [targetAt_eq short here begun going, Stage.along_rat]
    rfl
  · intro level stage gone _ _ going
    have nonneg : (0 : ℚ) ≤ gone.nanos / stage.duration.nanos := by positivity
    have mix := line_between (min_le_left (level : ℚ) stage.target) (min_le_right _ _)
      (le_max_left _ _) (le_max_right _ _) nonneg (part going).2
    push_cast
    exact mix.2
  · intro level stage gone later _ up order going
    have positive := (part going).1
    have cast : (gone.nanos : ℚ) ≤ later.nanos := by exact_mod_cast order
    have rise : (0 : ℚ) ≤ (stage.target : ℚ) - level := by
      have upCast : (level : ℚ) ≤ stage.target := by exact_mod_cast up
      linarith
    have parts : (gone.nanos : ℚ) / stage.duration.nanos ≤ later.nanos / stage.duration.nanos :=
      div_le_div_of_nonneg_right cast positive.le
    have change := mul_le_mul_of_nonneg_left parts rise
    unfold exactLine
    linarith

/-! ### The rounded line -/

/-- The part of a stage that is over, rounded. -/
def nearPart (gone whole : Duration) : ℚ := near (gone.nearSeconds / whole.nearSeconds)

/-- The line of a stage, rounded at every step. -/
def nearLine (level : Nat) (stage : Stage) (gone : Duration) : ℚ :=
  near (level + near (((stage.target : ℚ) - level) * nearPart gone stage.duration))

section Line

variable {gone later whole : Duration} {level target : ℕ}

theorem ratio_between (going : gone < whole) :
    0 < whole.nearSeconds ∧ 0 ≤ gone.nearSeconds / whole.nearSeconds ∧
      gone.nearSeconds / whole.nearSeconds ≤ 1 := by
  have nanos : gone.nanos < whole.nanos := going
  have positive : 0 < whole.nearSeconds := Duration.nearSeconds_pos (by omega)
  have order : gone.nearSeconds ≤ whole.nearSeconds := Duration.nearSeconds_mono nanos.le
  exact ⟨positive, div_nonneg gone.nearSeconds_nonneg positive.le, (div_le_one positive).mpr order⟩

theorem nearPart_between (going : gone < whole) :
    0 ≤ nearPart gone whole ∧ nearPart gone whole ≤ 1 := by
  obtain ⟨-, nonneg, most⟩ := ratio_between going
  refine ⟨near_nonneg nonneg, ?_⟩
  have one : near ((1 : ℕ) : ℚ) = (1 : ℕ) := near_natCast (by norm_num)
  rw [Nat.cast_one] at one
  rw [nearPart, ← one]
  exact near_mono most

theorem nearPart_mono (order : gone ≤ later) (going : later < whole) :
    nearPart gone whole ≤ nearPart later whole := by
  have seconds : gone.nearSeconds ≤ later.nearSeconds := Duration.nearSeconds_mono order
  exact near_mono (div_le_div_of_nonneg_right seconds (ratio_between going).1.le)

/-- Small levels are apart by a whole number that is kept. -/
theorem near_sub_levels (levelSmall : level ≤ 2 ^ 53) (targetSmall : target ≤ 2 ^ 53) :
    near ((target : ℚ) - level) = target - level := by
  have kept : near (((target : ℤ) - level : ℤ) : ℚ) = ((target : ℤ) - level : ℤ) := by
    apply near_intCast
    rw [abs_le]
    omega
  push_cast at kept
  exact kept

/-- The change along a stage lies between nothing and the whole difference of its levels. -/
theorem near_change_between {part : ℚ} (levelSmall : level ≤ 2 ^ 53) (targetSmall : target ≤ 2 ^ 53)
    (nonneg : 0 ≤ part) (most : part ≤ 1) :
    min 0 ((target : ℚ) - level) ≤ near (((target : ℚ) - level) * part) ∧
      near (((target : ℚ) - level) * part) ≤ max 0 ((target : ℚ) - level) := by
  have kept := near_sub_levels levelSmall targetSmall
  rcases le_total (0 : ℚ) ((target : ℚ) - level) with up | down
  · rw [min_eq_left up, max_eq_right up]
    refine ⟨near_nonneg (mul_nonneg up nonneg), ?_⟩
    conv_rhs => rw [← kept]
    exact near_mono (mul_le_of_le_one_right up most)
  · rw [min_eq_right down, max_eq_left down]
    constructor
    · conv_lhs => rw [← kept]
      apply near_mono
      nlinarith
    · rw [← near_zero]
      exact near_mono (mul_nonpos_of_nonpos_of_nonneg down nonneg)

end Line

/-- The rounded line stays between the ends of its stage. -/
theorem nearLine_le {level : ℕ} {stage : Stage} {gone : Duration} (levelSmall : level ≤ 2 ^ 53)
    (targetSmall : stage.target ≤ 2 ^ 53) (going : gone < stage.duration) :
    nearLine level stage gone ≤ max level stage.target := by
  obtain ⟨nonneg, most⟩ := nearPart_between going
  have change := (near_change_between levelSmall targetSmall nonneg most).2
  have kept : near ((max level stage.target : ℕ) : ℚ) = (max level stage.target : ℕ) :=
    near_natCast (max_le levelSmall targetSmall)
  push_cast at kept ⊢
  rw [nearLine, ← kept]
  apply near_mono
  rcases le_total (0 : ℚ) ((stage.target : ℚ) - level) with up | down
  · rw [max_eq_right up] at change
    exact le_max_of_le_right (by linarith)
  · rw [max_eq_left down] at change
    exact le_max_of_le_left (by linarith)

/-- The rounded line of a stage that leads up rises. -/
theorem nearLine_mono {level : ℕ} {stage : Stage} {gone later : Duration}
    (up : level ≤ stage.target) (order : gone ≤ later) (going : later < stage.duration) :
    nearLine level stage gone ≤ nearLine level stage later := by
  have rise : (0 : ℚ) ≤ (stage.target : ℚ) - level := by
    have upCast : (level : ℚ) ≤ stage.target := by exact_mod_cast up
    linarith
  have change := near_mono (mul_le_mul_of_nonneg_left (nearPart_mono order going) rise)
  exact near_mono (by linarith)

/-- **The curve inside a stage denotes the rounded line.** -/
theorem denotes_along {level : ℕ} {stage : Stage} {gone : Duration} (levelSmall : level ≤ 2 ^ 53)
    (targetSmall : stage.target ≤ 2 ^ 53) (going : gone < stage.duration) :
    Denotes (stage.along (Scalar.ofNat level : Float) gone) (nearLine level stage gone) := by
  obtain ⟨positive, nonnegRatio, mostRatio⟩ := ratio_between going
  obtain ⟨nonneg, most⟩ := nearPart_between going
  obtain ⟨low, high⟩ := near_change_between levelSmall targetSmall nonneg most
  have castLevel : (level : ℚ) ≤ 2 ^ 53 := by exact_mod_cast levelSmall
  have castTarget : (stage.target : ℚ) ≤ 2 ^ 53 := by exact_mod_cast targetSmall
  have wide : (2 : ℚ) ^ 54 ≤ 2 ^ (128 : ℤ) := by norm_num
  have nonnegLevel : (0 : ℚ) ≤ level := Nat.cast_nonneg _
  have nonnegTarget : (0 : ℚ) ≤ stage.target := Nat.cast_nonneg _
  have differ : |(stage.target : ℚ) - level| ≤ 2 ^ 53 := abs_le.mpr ⟨by linarith, by linarith⟩
  have start : Denotes (Float.ofNat level) level := by
    have read := denotes_natCast (levelSmall.trans (by norm_num))
    rwa [near_natCast levelSmall] at read
  have finish : Denotes (Float.ofNat stage.target) stage.target := by
    have read := denotes_natCast (targetSmall.trans (by norm_num))
    rwa [near_natCast targetSmall] at read
  have difference := finish.sub start (inRange_of_le (by linarith))
  rw [near_sub_levels levelSmall targetSmall] at difference
  have part : Denotes (gone.toScalar / stage.duration.toScalar : Float)
      (nearPart gone stage.duration) := by
    apply gone.denotes_toScalar.div stage.duration.denotes_toScalar positive.ne'
    apply inRange_of_le
    rw [abs_of_nonneg nonnegRatio]
    linarith
  have product := difference.mul part (by
    apply inRange_of_le
    rw [abs_mul, abs_of_nonneg nonneg]
    have shrink := mul_le_of_le_one_right (abs_nonneg ((stage.target : ℚ) - level)) most
    linarith)
  apply start.add product
  apply inRange_of_le
  rw [abs_le]
  constructor
  · have bottom : -(2 : ℚ) ^ 53 ≤ min 0 ((stage.target : ℚ) - level) :=
      le_min (by norm_num) (by linarith)
    linarith
  · have top : max 0 ((stage.target : ℚ) - level) ≤ 2 ^ 53 := max_le (by norm_num) (by linarith)
    linarith

/-- **The users computed with floats follow the schedule**, if its levels are whole numbers of
floats. -/
theorem steered_usersAt (schedule : Schedule) (small : schedule.peak ≤ 2 ^ 53) :
    schedule.Steered schedule.usersAt := by
  refine Steered.of_line nearLine ?_ ?_ ?_
  · intro place stage elapsed here short begun going
    have level := (levelBefore_between (List.getElem?_eq_some_iff.mp here).1.le).2
    have target := (target_between here).2
    have inside : Duration.ofNanos (elapsed.nanos - schedule.beginOf place) < stage.duration := by
      show (Duration.ofNanos _).nanos < stage.duration.nanos
      rw [Duration.nanos_ofNanos (by omega)]
      rw [beginOf_succ here] at going
      omega
    have denotes := denotes_along (level.trans small) (target.trans small) inside
    show roundHalfAway (schedule.targetAt elapsed : Float) = _
    rw [targetAt_eq short here begun going]
    exact denotes.roundHalfAway
  · intro level stage gone levelPeak targetPeak going
    exact nearLine_le (levelPeak.trans small) (targetPeak.trans small) going
  · intro level stage gone later _ up order going
    exact nearLine_mono up order going

end Schedule

end LoadTest
