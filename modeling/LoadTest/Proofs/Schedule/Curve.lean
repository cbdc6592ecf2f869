/-
**The curve of a schedule, exactly.**

Read over the rationals, the curve of a schedule is the one that its stages draw. Inside a stage it
is the straight line from the level before the stage to its target; at the end of a stage it has
the target of the last stage that ends there; behind all stages it is zero. So it stays between the
least and the greatest level, and between two jumps it changes no faster than its steepest stage.

* `Schedule.Draws`: these laws, for a schedule and an end of it;
* `Schedule.targetAt_draws`: a schedule whose spans are a duration obeys them;
* `Schedule.least_le_targetAt_fails`: without stages the curve is below the users at the start.
-/

import Mathlib.Algebra.Order.Group.Unbundled.Abs
import Mathlib.Algebra.Order.Group.MinMax
import Mathlib.Algebra.Order.Field.Basic
import Mathlib.Tactic.Positivity
import LoadTest.Proofs.Schedule.Place

namespace LoadTest

/-! ### One stage -/

/-- Inside a stage the users are on the line from its level to its target. -/
theorem Stage.along_rat (stage : Stage) (level : ℕ) (gone : Duration) :
    stage.along (Scalar.ofNat level : ℚ) gone =
      level + ((stage.target : ℚ) - level) * (gone.nanos / stage.duration.nanos) := by
  show (level : ℚ) + ((stage.target : ℚ) - level) *
    ((gone.toScalar : ℚ) / stage.duration.toScalar) = _
  rw [Duration.toScalar_rat, Duration.toScalar_rat, div_div_div_cancel_right₀ (by norm_num)]

namespace Schedule

/-- The least number of users at the start and at the end of any stage. -/
def least (schedule : Schedule) : Nat :=
  (schedule.stages.map Stage.target).foldl min schedule.startUsers

/-- The steepest slope of the stages that have a duration, in users a second. -/
def steepestFrom (previous : Nat) : List Stage → ℚ
  | [] => 0
  | stage :: rest =>
    if stage.duration.nanos = 0 then steepestFrom stage.target rest
    else max (|(stage.target : ℚ) - previous| / (stage.duration.nanos / 1000000000))
      (steepestFrom stage.target rest)

/-- The steepest slope of a schedule, in users a second. -/
def steepest (schedule : Schedule) : ℚ := steepestFrom schedule.startUsers schedule.stages

/-! ### Levels -/

theorem foldl_min_le (levels : List Nat) (first : Nat) :
    levels.foldl min first ≤ first ∧ ∀ level ∈ levels, levels.foldl min first ≤ level := by
  induction levels generalizing first with
  | nil => simp
  | cons level rest ih =>
    obtain ⟨below, all⟩ := ih (min first level)
    refine ⟨below.trans (min_le_left _ _), fun other member => ?_⟩
    rcases List.mem_cons.mp member with rfl | later
    · exact below.trans (min_le_right _ _)
    · exact all other later

theorem le_foldl_max (levels : List Nat) (first : Nat) :
    first ≤ levels.foldl max first ∧ ∀ level ∈ levels, level ≤ levels.foldl max first := by
  induction levels generalizing first with
  | nil => simp
  | cons level rest ih =>
    obtain ⟨above, all⟩ := ih (max first level)
    refine ⟨(le_max_left _ _).trans above, fun other member => ?_⟩
    rcases List.mem_cons.mp member with rfl | later
    · exact (le_max_right _ _).trans above
    · exact all other later

variable {schedule : Schedule} {stage : Stage} {place : Nat}

/-- A target lies between the least and the greatest level. -/
theorem target_between (here : schedule.stages[place]? = some stage) :
    schedule.least ≤ stage.target ∧ stage.target ≤ schedule.peak := by
  have member : stage.target ∈ schedule.stages.map Stage.target :=
    List.mem_map_of_mem (List.mem_of_getElem? here)
  exact ⟨(foldl_min_le _ _).2 _ member, (le_foldl_max _ _).2 _ member⟩

/-- The level before a stage lies between the least and the greatest level. -/
theorem levelBefore_between (inside : place ≤ schedule.stages.length) :
    schedule.least ≤ schedule.levelBefore place ∧ schedule.levelBefore place ≤ schedule.peak := by
  cases place with
  | zero => exact ⟨(foldl_min_le _ _).1, (le_foldl_max _ _).1⟩
  | succ place =>
    obtain ⟨stage, here⟩ : ∃ stage, schedule.stages[place]? = some stage :=
      ⟨_, List.getElem?_eq_getElem inside⟩
    rw [levelBefore_succ here]
    exact target_between here

/-! ### How fast the curve changes -/

section Slopes

variable {stages : List Stage} {start earlier later : Duration}

theorem steepestFrom_le_cons (previous : Nat) (stage : Stage) (rest : List Stage) :
    steepestFrom stage.target rest ≤ steepestFrom previous (stage :: rest) := by
  rw [steepestFrom]
  split
  · exact le_rfl
  · exact le_max_right _ _

/-- The line of a stage is no steeper than the steepest one. -/
theorem slope_le_steepestFrom (previous : Nat) (stage : Stage) (rest : List Stage)
    (lasts : 0 < stage.duration.nanos) (span : ℚ) (forward : 0 ≤ span) :
    |(stage.target : ℚ) - previous| * (span / stage.duration.nanos) ≤
      steepestFrom previous (stage :: rest) * (span / 1000000000) := by
  have steep : |(stage.target : ℚ) - previous| / (stage.duration.nanos / 1000000000) ≤
      steepestFrom previous (stage :: rest) := by
    rw [steepestFrom, if_neg lasts.ne']
    exact le_max_left _ _
  have positive : (0 : ℚ) < stage.duration.nanos := by exact_mod_cast lasts
  calc |(stage.target : ℚ) - previous| * (span / stage.duration.nanos)
      = |(stage.target : ℚ) - previous| / (stage.duration.nanos / 1000000000) *
          (span / 1000000000) := by field_simp
    _ ≤ steepestFrom previous (stage :: rest) * (span / 1000000000) :=
        mul_le_mul_of_nonneg_right steep (by positivity)

/-- No stage without duration lies behind one time and not behind another. -/
def SmoothFrom (start : Nat) (stages : List Stage) (earlier later : Nat) : Prop :=
  ∀ place stage, stages[place]? = some stage → stage.duration.nanos = 0 →
    ¬ (earlier < start + spanOf (stages.take place) ∧ start + spanOf (stages.take place) ≤ later)

theorem SmoothFrom.tail {start earlier later : Nat} {stage : Stage} {rest : List Stage}
    (smooth : SmoothFrom start (stage :: rest) earlier later) :
    SmoothFrom (start + stage.duration.nanos) rest earlier later := by
  intro place other here empty
  have apart := smooth (place + 1) other (by simpa using here) empty
  rw [List.take_succ_cons, spanOf_cons, ← Nat.add_assoc] at apart
  exact apart

theorem SmoothFrom.mono {start earlier middle later : Nat} {stages : List Stage}
    (smooth : SmoothFrom start stages earlier later) (forward : earlier ≤ middle) :
    SmoothFrom start stages middle later :=
  fun place stage here empty inside =>
    smooth place stage here empty ⟨forward.trans_lt inside.1, inside.2⟩

/-- Where no jump is, the curve begins at the level that it comes from. -/
theorem targetFrom_start (previous : Nat)
    (fits : start.nanos + spanOf stages ≤ Duration.longest.nanos)
    (smooth : ∀ stage ∈ stages.head?, 0 < stage.duration.nanos) :
    targetFrom start (Scalar.ofNat previous : ℚ) true start stages = previous := by
  cases stages with
  | nil =>
    simp [targetFrom]
    rfl
  | cons stage rest =>
    have lasts := smooth stage rfl
    have going : start < start + stage.duration := by
      show start.nanos < (start + stage.duration).nanos
      rw [nanos_finish fits]
      omega
    rw [targetFrom_of_lt _ _ going, Stage.along_rat, Nat.sub_self,
      Duration.nanos_ofNanos (Nat.zero_le _)]
    simp

/-- Inside a stage the curve follows its line. -/
theorem targetFrom_along (previous : Nat) (any : Bool) {stage : Stage} (rest : List Stage)
    (begun : start.nanos ≤ earlier.nanos) (inside : earlier < start + stage.duration) :
    targetFrom start (Scalar.ofNat previous : ℚ) any earlier (stage :: rest) =
      previous + ((stage.target : ℚ) - previous) *
        (((earlier.nanos : ℚ) - start.nanos) / stage.duration.nanos) := by
  rw [targetFrom_of_lt _ _ inside, Stage.along_rat,
    Duration.nanos_ofNanos ((Nat.sub_le _ _).trans (Duration.nanos_le_longest _)),
    Nat.cast_sub begun]

/-- Along the line of a stage the curve is no steeper than its steepest stage. -/
theorem along_steady (previous : Nat) {stage : Stage} (rest : List Stage)
    (lasts : 0 < stage.duration.nanos) (origin : ℚ) {first last : ℚ} (forward : first ≤ last) :
    |previous + ((stage.target : ℚ) - previous) * ((last - origin) / stage.duration.nanos) -
        (previous + ((stage.target : ℚ) - previous) * ((first - origin) / stage.duration.nanos))| ≤
      steepestFrom previous (stage :: rest) * ((last - first) / 1000000000) := by
  have span : 0 ≤ last - first := sub_nonneg.mpr forward
  have change : previous + ((stage.target : ℚ) - previous) *
        ((last - origin) / stage.duration.nanos) -
      (previous + ((stage.target : ℚ) - previous) * ((first - origin) / stage.duration.nanos)) =
        ((stage.target : ℚ) - previous) * ((last - first) / stage.duration.nanos) := by
    ring
  rw [change, abs_mul, abs_of_nonneg (a := _ / _) (by positivity)]
  exact slope_le_steepestFrom previous stage rest lasts _ span

/-- Up to the end of a stage the curve is no steeper than its steepest stage. -/
theorem steady_to_finish (previous : Nat) (any : Bool) {stage : Stage} (rest : List Stage)
    (finish : (start + stage.duration).nanos = start.nanos + stage.duration.nanos)
    (begun : start.nanos ≤ earlier.nanos) (inside : earlier < start + stage.duration) :
    |(stage.target : ℚ) -
        targetFrom start (Scalar.ofNat previous : ℚ) any earlier (stage :: rest)| ≤
      steepestFrom previous (stage :: rest) *
        ((((start + stage.duration).nanos : ℚ) - earlier.nanos) / 1000000000) := by
  have going : earlier.nanos < (start + stage.duration).nanos := inside
  have lasts : 0 < stage.duration.nanos := by omega
  have positive : (stage.duration.nanos : ℚ) ≠ 0 := by exact_mod_cast lasts.ne'
  have whole : (stage.target : ℚ) = previous + ((stage.target : ℚ) - previous) *
      ((((start + stage.duration).nanos : ℚ) - start.nanos) / stage.duration.nanos) := by
    rw [finish]
    push_cast
    field_simp
    ring
  have forward : (earlier.nanos : ℚ) ≤ (start + stage.duration).nanos := by
    exact_mod_cast going.le
  rw [targetFrom_along previous any rest begun inside]
  nth_rewrite 1 [whole]
  exact along_steady previous rest lasts _ forward

/-- **Between two jumps the curve is no steeper than its steepest stage.** The induction is on the
stages: what is before the end of the first one follows its line, and the rest begins there. -/
theorem targetFrom_steady (previous : Nat) (any : Bool)
    (fits : start.nanos + spanOf stages ≤ Duration.longest.nanos)
    (begun : start.nanos ≤ earlier.nanos) (order : earlier.nanos ≤ later.nanos)
    (within : later.nanos ≤ start.nanos + spanOf stages)
    (smooth : SmoothFrom start.nanos stages earlier.nanos later.nanos) :
    |targetFrom start (Scalar.ofNat previous : ℚ) any later stages -
        targetFrom start (Scalar.ofNat previous : ℚ) any earlier stages| ≤
      steepestFrom previous stages * (((later.nanos : ℚ) - earlier.nanos) / 1000000000) := by
  induction stages generalizing start previous any earlier with
  | nil =>
    obtain rfl : earlier = later := Duration.ext (by simp at within; omega)
    simp [steepestFrom]
  | cons stage rest ih =>
    have finish := nanos_finish fits
    have fitsRest : (start + stage.duration).nanos + spanOf rest ≤ Duration.longest.nanos := by
      rw [spanOf_cons] at fits
      omega
    have withinRest : later.nanos ≤ (start + stage.duration).nanos + spanOf rest := by
      rw [spanOf_cons] at within
      omega
    have smoothRest : SmoothFrom (start + stage.duration).nanos rest earlier.nanos later.nanos := by
      rw [finish]
      exact smooth.tail
    have weaken : ∀ span : ℚ, 0 ≤ span → steepestFrom stage.target rest * span ≤
        steepestFrom previous (stage :: rest) * span := fun span forward =>
      mul_le_mul_of_nonneg_right (steepestFrom_le_cons previous stage rest) forward
    have forward : (earlier.nanos : ℚ) ≤ later.nanos := by exact_mod_cast order
    by_cases inside : earlier < start + stage.duration
    · have going : earlier.nanos < (start + stage.duration).nanos := inside
      by_cases insideToo : later < start + stage.duration
      · have lasts : 0 < stage.duration.nanos := by omega
        rw [targetFrom_along previous any rest begun inside,
          targetFrom_along previous any rest (begun.trans order) insideToo]
        exact along_steady previous rest lasts _ forward
      · -- The later time is behind the stage: the change up to its end and the change from there.
        have behind : (start + stage.duration).nanos ≤ later.nanos := not_lt.mp insideToo
        have value : targetFrom (start + stage.duration) (Scalar.ofNat stage.target : ℚ) true
            (start + stage.duration) rest = stage.target := by
          refine targetFrom_start stage.target fitsRest fun next head => ?_
          by_contra empty
          refine smoothRest 0 next (by rwa [List.head?_eq_getElem?] at head) (by omega) ?_
          rw [List.take_zero, spanOf_nil, Nat.add_zero]
          exact ⟨going, behind⟩
        have tail := ih stage.target true fitsRest le_rfl behind withinRest
          (smoothRest.mono going.le)
        rw [value] at tail
        have lead := steady_to_finish previous any rest finish begun inside
        have after : (0 : ℚ) ≤
            ((later.nanos : ℚ) - (start + stage.duration).nanos) / 1000000000 := by
          have cast : ((start + stage.duration).nanos : ℚ) ≤ later.nanos := by
            exact_mod_cast behind
          exact div_nonneg (sub_nonneg.mpr cast) (by norm_num)
        rw [targetFrom_of_le _ _ insideToo]
        calc |targetFrom (start + stage.duration) (Scalar.ofNat stage.target : ℚ) true later rest -
              targetFrom start (Scalar.ofNat previous : ℚ) any earlier (stage :: rest)|
            ≤ |targetFrom (start + stage.duration) (Scalar.ofNat stage.target : ℚ) true later rest -
                stage.target| +
              |(stage.target : ℚ) -
                targetFrom start (Scalar.ofNat previous : ℚ) any earlier (stage :: rest)| :=
              abs_sub_le _ _ _
          _ ≤ steepestFrom previous (stage :: rest) *
                (((later.nanos : ℚ) - (start + stage.duration).nanos) / 1000000000) +
              steepestFrom previous (stage :: rest) *
                ((((start + stage.duration).nanos : ℚ) - earlier.nanos) / 1000000000) :=
              add_le_add (tail.trans (weaken _ after)) lead
          _ = steepestFrom previous (stage :: rest) *
                (((later.nanos : ℚ) - earlier.nanos) / 1000000000) := by ring
    · have behind : (start + stage.duration).nanos ≤ earlier.nanos := not_lt.mp inside
      have insideToo : ¬ later < start + stage.duration := not_lt.mpr (behind.trans order)
      rw [targetFrom_of_le _ _ inside, targetFrom_of_le _ _ insideToo]
      exact (ih stage.target true fitsRest behind order withinRest smoothRest).trans
        (weaken _ (div_nonneg (sub_nonneg.mpr forward) (by norm_num)))

end Slopes

/-! ### The laws of a curve -/

/-- **The curve that the stages of a schedule draw.** Times are nanoseconds since the start; stage
`place` lasts from `beginOf place` to `beginOf (place + 1)`. -/
structure Draws (schedule : Schedule) : Prop where
  /-- Inside a stage the curve is on the line from the level before it to its target. -/
  inside : ∀ place stage elapsed, schedule.stages[place]? = some stage →
    schedule.beginOf place ≤ elapsed.nanos → elapsed.nanos < schedule.beginOf (place + 1) →
      schedule.stageAt elapsed = some place ∧ schedule.isFinished elapsed = false ∧
        (schedule.targetAt elapsed : ℚ) = schedule.levelBefore place +
          ((stage.target : ℚ) - schedule.levelBefore place) *
            (((elapsed.nanos : ℚ) - schedule.beginOf place) / stage.duration.nanos)
  /-- At an end before the last one it has the target of the last stage that ends there. -/
  ends : ∀ place stage elapsed, schedule.stages[place]? = some stage →
    elapsed.nanos = schedule.beginOf (place + 1) → elapsed < schedule.total →
    (∀ later, place < later → elapsed.nanos ≠ schedule.beginOf (later + 1)) →
      (schedule.targetAt elapsed : ℚ) = stage.target
  /-- At the last end it has the last target. -/
  last : ∀ stage, schedule.stages.getLast? = some stage →
    (schedule.targetAt schedule.total : ℚ) = stage.target
  /-- No stage goes on exactly when the schedule is over. -/
  finishes : ∀ elapsed, (schedule.stageAt elapsed = none ↔ schedule.isFinished elapsed = true) ∧
    (schedule.isFinished elapsed = true ↔ schedule.total ≤ elapsed)
  /-- After the last end there are no users. -/
  after : ∀ elapsed, schedule.total < elapsed → (schedule.targetAt elapsed : ℚ) = 0
  /-- Up to the last end the curve is not above the greatest level, -/
  atMost : ∀ elapsed, elapsed ≤ schedule.total → (schedule.targetAt elapsed : ℚ) ≤ schedule.peak
  /-- and with a stage it is not below the least one. -/
  atLeast : schedule.stages ≠ [] → ∀ elapsed, elapsed ≤ schedule.total →
    (schedule.least : ℚ) ≤ schedule.targetAt elapsed
  /-- Between two times it changes no faster than the steepest stage, unless there is a jump. -/
  steady : ∀ earlier later, earlier ≤ later → later ≤ schedule.total →
    (∀ place stage, schedule.stages[place]? = some stage → stage.duration.nanos = 0 →
      ¬ (earlier.nanos < schedule.beginOf place ∧ schedule.beginOf place ≤ later.nanos)) →
    |(schedule.targetAt later : ℚ) - schedule.targetAt earlier| ≤
      schedule.steepest * (((later.nanos : ℚ) - earlier.nanos) / 1000000000)

section Laws

variable {elapsed : Duration}

/-- Stages begin in their order. -/
theorem beginOf_mono (schedule : Schedule) {place later : Nat} (order : place ≤ later) :
    schedule.beginOf place ≤ schedule.beginOf later := by
  have parts := List.take_append_drop place (schedule.stages.take later)
  rw [List.take_take, Nat.min_eq_left order] at parts
  rw [beginOf, beginOf, ← parts, spanOf_append]
  exact Nat.le_add_right _ _

/-- The line of a stage, inside it. -/
theorem targetAt_line (fits : schedule.Fits) (here : schedule.stages[place]? = some stage)
    (begun : schedule.beginOf place ≤ elapsed.nanos)
    (going : elapsed.nanos < schedule.beginOf (place + 1)) :
    (schedule.targetAt elapsed : ℚ) = schedule.levelBefore place +
      ((stage.target : ℚ) - schedule.levelBefore place) *
        (((elapsed.nanos : ℚ) - schedule.beginOf place) / stage.duration.nanos) := by
  have bound : elapsed.nanos - schedule.beginOf place ≤ Duration.longest.nanos :=
    (Nat.sub_le _ _).trans (Duration.nanos_le_longest _)
  rw [targetAt_eq (short_of_fits fits going) here begun going, Stage.along_rat,
    Duration.nanos_ofNanos bound, Nat.cast_sub begun]

/-- A point of a line lies between its ends. -/
theorem line_between {low high level target part : ℚ} (lowLevel : low ≤ level)
    (lowTarget : low ≤ target) (levelHigh : level ≤ high) (targetHigh : target ≤ high)
    (begun : 0 ≤ part) (going : part ≤ 1) :
    low ≤ level + (target - level) * part ∧ level + (target - level) * part ≤ high := by
  have mix : level + (target - level) * part = (1 - part) * level + part * target := by ring
  rw [mix]
  constructor
  · nlinarith
  · nlinarith

theorem targetAt_between (fits : schedule.Fits) (staged : schedule.stages ≠ [])
    (within : elapsed.nanos ≤ spanOf schedule.stages) :
    (schedule.least : ℚ) ≤ schedule.targetAt elapsed ∧
      (schedule.targetAt elapsed : ℚ) ≤ schedule.peak := by
  rcases Nat.lt_or_eq_of_le within with going | done
  · obtain ⟨place, stage, here, begun, before⟩ := exists_stage going
    obtain ⟨lowLevel, levelHigh⟩ := levelBefore_between (List.getElem?_eq_some_iff.mp here).1.le
    obtain ⟨lowTarget, targetHigh⟩ := target_between here
    have span := beginOf_succ here
    have lasts : (0 : ℚ) < stage.duration.nanos := by
      have positive : 0 < stage.duration.nanos := by omega
      exact_mod_cast positive
    rw [targetAt_line fits here begun before, ← Nat.cast_sub begun]
    refine line_between (by exact_mod_cast lowLevel) (by exact_mod_cast lowTarget)
      (by exact_mod_cast levelHigh) (by exact_mod_cast targetHigh) (by positivity) ?_
    rw [div_le_one lasts]
    have short : elapsed.nanos - schedule.beginOf place ≤ stage.duration.nanos := by omega
    exact_mod_cast short
  · rw [targetAt_past fits done.ge, if_pos ⟨staged, done⟩]
    have between : schedule.least ≤ schedule.levelBefore schedule.stages.length ∧
        schedule.levelBefore schedule.stages.length ≤ schedule.peak := levelBefore_between le_rfl
    exact ⟨Nat.cast_le.mpr between.1, Nat.cast_le.mpr between.2⟩

/-- The end of the last stage that ends at a time is where the next stage begins. -/
theorem targetAt_end (fits : schedule.Fits) (here : schedule.stages[place]? = some stage)
    (done : elapsed.nanos = schedule.beginOf (place + 1))
    (within : elapsed.nanos < spanOf schedule.stages)
    (latest : ∀ later, place < later → elapsed.nanos ≠ schedule.beginOf (later + 1)) :
    (schedule.targetAt elapsed : ℚ) = stage.target := by
  obtain ⟨next, other, there, begun, going⟩ := exists_stage within
  have notBefore : place < next := by
    by_contra before
    have ended : schedule.beginOf (next + 1) ≤ schedule.beginOf (place + 1) :=
      beginOf_mono schedule (Nat.succ_le_succ (not_lt.mp before))
    omega
  obtain rfl : next = place + 1 := by
    by_contra apart
    obtain ⟨middle, rfl⟩ : ∃ middle, next = middle + 1 := ⟨next - 1, by omega⟩
    have ended : schedule.beginOf (place + 1) ≤ schedule.beginOf (middle + 1) :=
      beginOf_mono schedule (by omega)
    have other : elapsed.nanos ≠ schedule.beginOf (middle + 1) := latest middle (by omega)
    omega
  rw [targetAt_line fits there begun going, levelBefore_succ here, done, sub_self, zero_div,
    mul_zero, add_zero]

/-- The curve at the end of a schedule that has stages. -/
theorem targetAt_last (fits : schedule.Fits) (here : schedule.stages.getLast? = some stage)
    (done : elapsed.nanos = spanOf schedule.stages) :
    (schedule.targetAt elapsed : ℚ) = stage.target := by
  rw [List.getLast?_eq_getElem?] at here
  have staged : schedule.stages ≠ [] := by
    rintro empty
    rw [empty] at here
    simp at here
  have length : schedule.stages.length = schedule.stages.length - 1 + 1 := by
    have positive := List.length_pos_iff.mpr staged
    omega
  rw [targetAt_past fits done.ge, if_pos ⟨staged, done⟩, length, levelBefore_succ here]
  rfl

/-- No stage goes on exactly when all are over. -/
theorem stageAt_eq_none_iff (fits : schedule.Fits) :
    schedule.stageAt elapsed = none ↔ spanOf schedule.stages ≤ elapsed.nanos := by
  constructor
  · intro none
    by_contra within
    obtain ⟨place, stage, here, begun, going⟩ := exists_stage (not_le.mp within)
    rw [stageAt_eq (short_of_fits fits going) here begun going] at none
    contradiction
  · exact stageAt_eq_none fits

/-- The target never passes the greatest level, with or without stages. -/
theorem targetAt_le_peak (fits : schedule.Fits) (within : elapsed.nanos ≤ spanOf schedule.stages) :
    (schedule.targetAt elapsed : ℚ) ≤ schedule.peak := by
  by_cases staged : schedule.stages = []
  · have past : spanOf schedule.stages ≤ elapsed.nanos := by
      rw [staged]
      exact Nat.zero_le _
    rw [targetAt_past fits past, if_neg fun both => both.1 staged]
    exact Nat.cast_nonneg _
  · exact (targetAt_between fits staged within).2

/-- Between two jumps the curve of a schedule is no steeper than its steepest stage. -/
theorem targetAt_steady (fits : schedule.Fits) {earlier later : Duration} (order : earlier ≤ later)
    (within : later.nanos ≤ spanOf schedule.stages)
    (smooth : ∀ place stage, schedule.stages[place]? = some stage → stage.duration.nanos = 0 →
      ¬ (earlier.nanos < schedule.beginOf place ∧ schedule.beginOf place ≤ later.nanos)) :
    |(schedule.targetAt later : ℚ) - schedule.targetAt earlier| ≤
      schedule.steepest * (((later.nanos : ℚ) - earlier.nanos) / 1000000000) := by
  refine targetFrom_steady schedule.startUsers false (walk_fits fits) (Nat.zero_le _) order ?_ ?_
  · rw [Duration.nanos_zero, Nat.zero_add]
    exact within
  · intro place stage here empty
    rw [Duration.nanos_zero, Nat.zero_add]
    exact smooth place stage here empty

end Laws

/-- **The curve of a schedule is the one that its stages draw.** -/
theorem targetAt_draws (schedule : Schedule) (fits : schedule.Fits) : schedule.Draws where
  inside place stage elapsed here begun going := by
    have finished : schedule.isFinished elapsed = false := by
      have short := short_of_fits fits going
      have before : ¬ schedule.total ≤ elapsed := by
        show ¬ schedule.total.nanos ≤ elapsed.nanos
        have within : schedule.beginOf (place + 1) ≤ spanOf schedule.stages := by
          rw [← beginOf_length]
          exact beginOf_mono schedule (List.getElem?_eq_some_iff.mp here).1
        rw [nanos_total_of_fits fits]
        omega
      exact decide_eq_false before
    exact ⟨stageAt_eq (short_of_fits fits going) here begun going, finished,
      targetAt_line fits here begun going⟩
  ends place stage elapsed here done before latest := by
    have within : elapsed.nanos < spanOf schedule.stages := by
      rw [← nanos_total_of_fits fits]
      exact before
    exact targetAt_end fits here done within latest
  last stage here := targetAt_last fits here (nanos_total_of_fits fits)
  finishes elapsed := by
    have finished : schedule.isFinished elapsed = true ↔ schedule.total ≤ elapsed := decide_eq_true_iff
    refine ⟨?_, finished⟩
    rw [stageAt_eq_none_iff fits, finished, ← nanos_total_of_fits fits]
    rfl
  after elapsed past := by
    have beyond : spanOf schedule.stages < elapsed.nanos := by
      rw [← nanos_total_of_fits fits]
      exact past
    rw [targetAt_past fits beyond.le, if_neg fun both => beyond.ne both.2.symm]
    rfl
  atMost elapsed within := targetAt_le_peak fits (nanos_total_of_fits fits ▸ within)
  atLeast staged elapsed within :=
    (targetAt_between fits staged (nanos_total_of_fits fits ▸ within)).1
  steady earlier later order within smooth :=
    targetAt_steady fits order (nanos_total_of_fits fits ▸ within) smooth

/-- A ramp, a jump and a hold. -/
theorem draws_ramp_jump_hold :
    (⟨2, [⟨.ofWholeSeconds 10, 12⟩, ⟨.zero, 4⟩, ⟨.ofWholeSeconds 5, 4⟩]⟩ : Schedule).Draws :=
  targetAt_draws _ (by decide)

/-- **Without stages the curve is below the users at the start**: the schedule is over at once, and
its end belongs to no stage. -/
theorem least_le_targetAt_fails :
    ¬ ∀ (schedule : Schedule) (elapsed : Duration), schedule.Fits → elapsed ≤ schedule.total →
      (schedule.least : ℚ) ≤ schedule.targetAt elapsed := by
  intro always
  have level : ((5 : ℕ) : ℚ) ≤ ((0 : ℕ) : ℚ) := always ⟨5, []⟩ .zero (by decide) (by decide)
  norm_num at level

end Schedule

end LoadTest
