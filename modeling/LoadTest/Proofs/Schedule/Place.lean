/-
**Where in a schedule a time lies.**

The curve, the place of a stage and the end of a schedule are three walks over the same stages. A
stage lasts from the sum of the spans before it to that sum and its own span; as long as all spans
together are a duration, the three walks agree on these sums.

* `Schedule.spanOf`, `Schedule.beginOf`: the sums of spans, in nanoseconds;
* `Schedule.levelBefore`: the users at which a stage begins;
* `Schedule.stageAt_eq`, `Schedule.targetAt_eq`: where the walks stop inside a stage;
* `Schedule.stageAt_eq_none`, `Schedule.targetAt_past`: where they stop behind all stages.
-/

import LoadTest.Proofs.Duration.Sums
import LoadTest.Schedule

namespace LoadTest

/-- The number of users in the midst of a stage that began at a level some time ago. -/
def Stage.along {α : Type} [Scalar α] (stage : Stage) (level : α) (gone : Duration) : α :=
  level + (Scalar.ofNat stage.target - level) * (gone.toScalar / stage.duration.toScalar)

namespace Schedule

/-- The nanoseconds of some stages together. -/
def spanOf (stages : List Stage) : Nat := (stages.map fun stage => stage.duration.nanos).sum

@[simp] theorem spanOf_nil : spanOf [] = 0 := rfl

@[simp] theorem spanOf_cons (stage : Stage) (rest : List Stage) :
    spanOf (stage :: rest) = stage.duration.nanos + spanOf rest := by
  simp [spanOf]

theorem spanOf_append (stages rest : List Stage) :
    spanOf (stages ++ rest) = spanOf stages + spanOf rest := by
  simp [spanOf]

/-- The level at which a stage begins, by its place: the target of the stage before it. -/
def levelFrom (previous : Nat) (stages : List Stage) : Nat → Nat
  | 0 => previous
  | place + 1 => ((stages[place]?).map Stage.target).getD 0

theorem levelFrom_cons (previous : Nat) (stage : Stage) (rest : List Stage) (place : Nat) :
    levelFrom previous (stage :: rest) (place + 1) = levelFrom stage.target rest place := by
  cases place <;> simp [levelFrom]

/-! ### The walks from some stage on -/

section Walk

variable {α : Type} [Scalar α]

/-- The end of a stage, if the spans fit a duration. -/
theorem nanos_finish {start : Duration} {stage : Stage} {rest : List Stage}
    (fits : start.nanos + spanOf (stage :: rest) ≤ Duration.longest.nanos) :
    (start + stage.duration).nanos = start.nanos + stage.duration.nanos := by
  rw [Duration.nanos_add]
  rw [spanOf_cons] at fits
  omega

theorem stageFrom_of_lt {start elapsed : Duration} {stage : Stage} {rest : List Stage}
    (going : elapsed < start + stage.duration) :
    stageFrom start elapsed (stage :: rest) = some 0 := by
  simp only [stageFrom, if_pos going]

theorem stageFrom_of_le {start elapsed : Duration} {stage : Stage} {rest : List Stage}
    (behind : ¬ elapsed < start + stage.duration) :
    stageFrom start elapsed (stage :: rest) =
      (stageFrom (start + stage.duration) elapsed rest).map (· + 1) := by
  simp only [stageFrom, if_neg behind]

theorem targetFrom_of_lt {start elapsed : Duration} {stage : Stage} {rest : List Stage} (level : α)
    (any : Bool) (going : elapsed < start + stage.duration) :
    targetFrom start level any elapsed (stage :: rest) =
      stage.along level (.ofNanos (elapsed.nanos - start.nanos)) := by
  simp only [targetFrom, if_pos going, Stage.along]

theorem targetFrom_of_le {start elapsed : Duration} {stage : Stage} {rest : List Stage} (level : α)
    (any : Bool) (behind : ¬ elapsed < start + stage.duration) :
    targetFrom start level any elapsed (stage :: rest) =
      targetFrom (start + stage.duration) (Scalar.ofNat stage.target) true elapsed rest := by
  simp only [targetFrom, if_neg behind]

/-- **Inside a stage both walks stop at it**, also where the sums stop at the longest span behind
it. The induction is on the stages; the walks carry the end and the target of the stage before. -/
theorem walk_inside {stages : List Stage} {start elapsed : Duration} {stage : Stage} {place : Nat}
    (previous : Nat) (any : Bool) (short : elapsed.nanos < Duration.longest.nanos)
    (here : stages[place]? = some stage)
    (begun : start.nanos + spanOf (stages.take place) ≤ elapsed.nanos)
    (going : elapsed.nanos < start.nanos + spanOf (stages.take (place + 1))) :
    stageFrom start elapsed stages = some place ∧
      targetFrom start (Scalar.ofNat previous : α) any elapsed stages =
        stage.along (Scalar.ofNat (levelFrom previous stages place))
          (.ofNanos (elapsed.nanos - (start.nanos + spanOf (stages.take place)))) := by
  induction stages generalizing start previous any place with
  | nil => simp at here
  | cons first rest ih =>
    have finish := Duration.nanos_add start first.duration
    cases place with
    | zero =>
      obtain rfl : first = stage := by simpa using here
      have before : elapsed.nanos < start.nanos + first.duration.nanos := by simpa using going
      have inside : elapsed < start + first.duration := by
        show elapsed.nanos < (start + first.duration).nanos
        omega
      exact ⟨stageFrom_of_lt inside, by rw [targetFrom_of_lt _ _ inside]; simp [levelFrom]⟩
    | succ place =>
      rw [List.take_succ_cons, spanOf_cons] at begun going
      have whole : (start + first.duration).nanos = start.nanos + first.duration.nanos := by omega
      have behind : ¬ elapsed < start + first.duration := by
        show ¬ elapsed.nanos < (start + first.duration).nanos
        omega
      have begunRest : (start + first.duration).nanos + spanOf (rest.take place) ≤ elapsed.nanos := by
        omega
      have goingRest : elapsed.nanos <
          (start + first.duration).nanos + spanOf (rest.take (place + 1)) := by
        omega
      have hereRest : rest[place]? = some stage := by simpa using here
      obtain ⟨found, value⟩ := ih first.target true hereRest begunRest goingRest
      refine ⟨by rw [stageFrom_of_le behind, found]; rfl, ?_⟩
      rw [targetFrom_of_le _ _ behind, value, levelFrom_cons, List.take_succ_cons, spanOf_cons, whole,
        Nat.add_assoc]

/-- **Behind all stages the walks are over.** Only the very end of the last stage still has its
target. -/
theorem walk_past {stages : List Stage} {start elapsed : Duration} (previous : Nat) (any : Bool)
    (fits : start.nanos + spanOf stages ≤ Duration.longest.nanos)
    (past : start.nanos + spanOf stages ≤ elapsed.nanos) :
    stageFrom start elapsed stages = none ∧
      targetFrom start (Scalar.ofNat previous : α) any elapsed stages =
        if (any || !stages.isEmpty) && elapsed.nanos = start.nanos + spanOf stages then
          Scalar.ofNat (levelFrom previous stages stages.length)
        else Scalar.ofNat 0 := by
  induction stages generalizing start previous any with
  | nil =>
    by_cases last : elapsed.nanos = start.nanos
    · simp [stageFrom, targetFrom, levelFrom, Duration.ext last]
    · have apart : elapsed ≠ start := fun same => last (congrArg Duration.nanos same)
      simp [stageFrom, targetFrom, apart, last]
  | cons first rest ih =>
    have finish := nanos_finish fits
    rw [spanOf_cons] at fits past
    have behind : ¬ elapsed < start + first.duration := by
      show ¬ elapsed.nanos < (start + first.duration).nanos
      omega
    have fitsRest : (start + first.duration).nanos + spanOf rest ≤ Duration.longest.nanos := by
      omega
    have pastRest : (start + first.duration).nanos + spanOf rest ≤ elapsed.nanos := by omega
    obtain ⟨found, value⟩ := ih first.target true fitsRest pastRest
    refine ⟨by rw [stageFrom_of_le behind, found]; rfl, ?_⟩
    rw [targetFrom_of_le _ _ behind, value, List.length_cons, levelFrom_cons, spanOf_cons, finish,
      Nat.add_assoc]
    simp

end Walk

/-- A time before the end of some stages lies inside one of them. -/
theorem exists_inside {stages : List Stage} {start elapsed : Nat} (begun : start ≤ elapsed)
    (going : elapsed < start + spanOf stages) :
    ∃ place stage, stages[place]? = some stage ∧ start + spanOf (stages.take place) ≤ elapsed ∧
      elapsed < start + spanOf (stages.take (place + 1)) := by
  induction stages generalizing start with
  | nil => simp at going; omega
  | cons first rest ih =>
    rw [spanOf_cons] at going
    by_cases inside : elapsed < start + first.duration.nanos
    · exact ⟨0, first, by simp, by simpa using begun, by simpa using inside⟩
    · have begunRest : start + first.duration.nanos ≤ elapsed := by omega
      have goingRest : elapsed < start + first.duration.nanos + spanOf rest := by omega
      obtain ⟨place, stage, here, low, high⟩ := ih begunRest goingRest
      refine ⟨place + 1, stage, by simpa using here, ?_, ?_⟩
      · rw [List.take_succ_cons, spanOf_cons]; omega
      · rw [List.take_succ_cons, spanOf_cons]; omega

/-! ### The walks of a schedule -/

section Schedules

variable {α : Type} [Scalar α] {schedule : Schedule} {elapsed : Duration} {stage : Stage}
  {place : Nat}

/-- When a stage begins, by its place. -/
def beginOf (schedule : Schedule) (place : Nat) : Nat := spanOf (schedule.stages.take place)

/-- The level at which a stage begins: the target of the stage before it, or the users at the
start. -/
def levelBefore (schedule : Schedule) (place : Nat) : Nat :=
  levelFrom schedule.startUsers schedule.stages place

/-- The spans of all stages together are a duration. -/
def Fits (schedule : Schedule) : Prop := spanOf schedule.stages ≤ Duration.longest.nanos

instance (schedule : Schedule) : Decidable schedule.Fits :=
  inferInstanceAs (Decidable (_ ≤ Duration.longest.nanos))

theorem beginOf_length (schedule : Schedule) :
    schedule.beginOf schedule.stages.length = spanOf schedule.stages := by
  rw [beginOf, List.take_length]

theorem beginOf_succ (here : schedule.stages[place]? = some stage) :
    schedule.beginOf (place + 1) = schedule.beginOf place + stage.duration.nanos := by
  unfold beginOf spanOf
  rw [List.take_add_one, here]
  simp

theorem levelBefore_succ (here : schedule.stages[place]? = some stage) :
    schedule.levelBefore (place + 1) = stage.target := by
  simp [levelBefore, levelFrom, here]

theorem nanos_total (schedule : Schedule) :
    schedule.total.nanos = min (spanOf schedule.stages) Duration.longest.nanos := by
  rw [total, Duration.nanos_sum, List.map_map]
  rfl

theorem nanos_total_of_fits (fits : schedule.Fits) :
    schedule.total.nanos = spanOf schedule.stages := by
  rw [nanos_total, Nat.min_eq_left fits]

theorem walk_fits (fits : schedule.Fits) :
    Duration.zero.nanos + spanOf schedule.stages ≤ Duration.longest.nanos := by
  rw [Duration.nanos_zero, Nat.zero_add]
  exact fits

/-- A time inside a stage is before the longest span, if the spans fit one. -/
theorem short_of_fits (fits : schedule.Fits) (going : elapsed.nanos < schedule.beginOf place) :
    elapsed.nanos < Duration.longest.nanos := by
  have parts := List.take_append_drop place schedule.stages
  have whole : spanOf schedule.stages =
      schedule.beginOf place + spanOf (schedule.stages.drop place) := by
    rw [beginOf, ← spanOf_append, parts]
  unfold Fits at fits
  omega

/-- The curve and the place of a stage, inside the stage. -/
theorem walk_stage (short : elapsed.nanos < Duration.longest.nanos)
    (here : schedule.stages[place]? = some stage)
    (begun : schedule.beginOf place ≤ elapsed.nanos)
    (going : elapsed.nanos < schedule.beginOf (place + 1)) :
    schedule.stageAt elapsed = some place ∧
      (schedule.targetAt elapsed : α) = stage.along (Scalar.ofNat (schedule.levelBefore place))
        (.ofNanos (elapsed.nanos - schedule.beginOf place)) := by
  have inside := @walk_inside α _ _ .zero elapsed _ _ schedule.startUsers false short here
    (by rw [Duration.nanos_zero, Nat.zero_add]; exact begun)
    (by rw [Duration.nanos_zero, Nat.zero_add]; exact going)
  rw [Duration.nanos_zero, Nat.zero_add] at inside
  exact inside

theorem stageAt_eq (short : elapsed.nanos < Duration.longest.nanos)
    (here : schedule.stages[place]? = some stage)
    (begun : schedule.beginOf place ≤ elapsed.nanos)
    (going : elapsed.nanos < schedule.beginOf (place + 1)) : schedule.stageAt elapsed = some place :=
  (walk_stage (α := Rat) short here begun going).1

theorem targetAt_eq (short : elapsed.nanos < Duration.longest.nanos)
    (here : schedule.stages[place]? = some stage)
    (begun : schedule.beginOf place ≤ elapsed.nanos)
    (going : elapsed.nanos < schedule.beginOf (place + 1)) :
    (schedule.targetAt elapsed : α) = stage.along (Scalar.ofNat (schedule.levelBefore place))
      (.ofNanos (elapsed.nanos - schedule.beginOf place)) :=
  (walk_stage short here begun going).2

/-- The curve and the place of a stage, behind all stages. -/
theorem walk_end (fits : schedule.Fits) (past : spanOf schedule.stages ≤ elapsed.nanos) :
    schedule.stageAt elapsed = none ∧
      (schedule.targetAt elapsed : α) =
        if schedule.stages ≠ [] ∧ elapsed.nanos = spanOf schedule.stages then
          Scalar.ofNat (schedule.levelBefore schedule.stages.length)
        else Scalar.ofNat 0 := by
  have behind := @walk_past α _ _ .zero elapsed schedule.startUsers false (walk_fits fits)
    (by rw [Duration.nanos_zero, Nat.zero_add]; exact past)
  simpa [targetAt, stageAt, levelBefore] using behind

theorem stageAt_eq_none (fits : schedule.Fits) (past : spanOf schedule.stages ≤ elapsed.nanos) :
    schedule.stageAt elapsed = none :=
  (walk_end (α := Rat) fits past).1

theorem targetAt_past (fits : schedule.Fits) (past : spanOf schedule.stages ≤ elapsed.nanos) :
    (schedule.targetAt elapsed : α) =
      if schedule.stages ≠ [] ∧ elapsed.nanos = spanOf schedule.stages then
        Scalar.ofNat (schedule.levelBefore schedule.stages.length)
      else Scalar.ofNat 0 :=
  (walk_end fits past).2

/-- A time before the end of a schedule lies inside one of its stages. -/
theorem exists_stage (going : elapsed.nanos < spanOf schedule.stages) :
    ∃ place stage, schedule.stages[place]? = some stage ∧ schedule.beginOf place ≤ elapsed.nanos ∧
      elapsed.nanos < schedule.beginOf (place + 1) := by
  rw [← Nat.zero_add (spanOf schedule.stages)] at going
  obtain ⟨place, stage, here, begun, before⟩ := exists_inside (Nat.zero_le _) going
  rw [Nat.zero_add] at begun before
  exact ⟨place, stage, here, begun, before⟩

end Schedules

end Schedule

end LoadTest
