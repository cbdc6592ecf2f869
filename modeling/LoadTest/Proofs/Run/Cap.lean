/-
**What the cap on users bounds.**

A tick that asks for more users than are allowed is refused, so there are never more active users
than that. Retired users do not count as active, though they run on until their iterations are over.
When the schedule leads up again before they are gone, new users join them, and then there can be
more users at the same time than are allowed. The peak that a run reports counts all of them.

* `Run.Grows`: a tick that adds users;
* `Run.Moves`: all that a turn can do to the number of users;
* `Run.Capped`: what the cap bounds, and exactly when it bounds all users;
* `Run.capped_moment`: every run is capped so at every moment;
* `Run.size_le_maxUsers_fails`: the cap does not bound all users.
-/

import LoadTest.Proofs.Run.Orderly
import LoadTest.Proofs.Run.Ramp

namespace LoadTest

namespace Pool

variable {before middle after pool : Pool}

/-- **No user is added**, and the peak stays. -/
structure Lessens (before after : Pool) : Prop where
  live : after.live ≤ before.live
  size : after.size ≤ before.size
  peak : after.peak = before.peak

theorem Lessens.refl (pool : Pool) : pool.Lessens pool := ⟨le_rfl, le_rfl, rfl⟩

theorem Lessens.trans (first : before.Lessens middle) (second : middle.Lessens after) :
    before.Lessens after :=
  ⟨second.live.trans first.live, second.size.trans first.size, second.peak.trans first.peak⟩

theorem lessens_map (f : User → User) (pool : Pool) : pool.Lessens (pool.map f) where
  live := (List.length_map ..).le
  size := by
    unfold size
    rw [users_map, List.length_map]
  peak := rfl

theorem lessens_reap (pool : Pool) : pool.Lessens pool.reap where
  live := List.length_filter_le _ _
  size := by
    unfold size
    rw [users_reap]
    exact List.length_filter_le _ _
  peak := rfl

theorem size_add (pool : Pool) : pool.size = pool.live + pool.draining.length :=
  List.length_append

/-- **A pool that is told how many users there are to be** has no more than are allowed. It is
larger than before only if there are to be more, and then those that drain are still there. -/
theorem told_size {now : Duration} {cap target : ℕ} (counted : pool.size ≤ pool.peak)
    (told : pool.setTarget now cap target = .ok after) :
    target ≤ cap ∧ after.live = target ∧ after.peak = max pool.peak after.size ∧
      (after.size ≤ pool.size ∨ pool.live < target ∧ after.draining = pool.draining) := by
  unfold setTarget at told
  split_ifs at told with above same fewer
  · obtain rfl := Except.ok.inj told
    exact ⟨not_lt.mp above, same, (max_eq_left counted).symm, .inl le_rfl⟩
  · obtain rfl := Except.ok.inj told
    refine ⟨not_lt.mp above, List.length_take_of_le fewer.le, rfl, .inl ?_⟩
    have kept := (pool.shrink_perm target).length_eq
    rw [List.length_append, List.length_append, List.length_map, ← List.length_append,
      List.take_append_drop, ← List.length_append] at kept
    exact kept.le
  · obtain rfl := Except.ok.inj told
    refine ⟨not_lt.mp above, ?_, rfl, .inr ⟨by omega, rfl⟩⟩
    show (pool.active ++ _).length = target
    rw [List.length_append, List.length_map, List.length_range']
    have asked : pool.active.length < target := by
      show pool.live < target
      omega
    show pool.active.length + (target - pool.active.length) = target
    omega

end Pool

namespace Run

variable {setup : Setup} {run next : Run}

/-- **A tick that adds users**: it comes before the end of the schedule, which asks for more active
users than there are, and for no more than are allowed. -/
structure Grows (setup : Setup) (run : Run) (now : Duration) : Prop where
  running : run.phase = .running
  early : setup.plan.schedule.isFinished now = false
  fewer : run.pool.reap.live < setup.usersAt now
  allowed : setup.usersAt now ≤ setup.plan.maxUsers

/-- **All that a turn can do to the number of users.** -/
inductive Moves (setup : Setup) (run : Run) : Turn → Run → Prop
  | lessens {turn : Turn} {next : Run} (pool : run.pool.Lessens next.pool)
      (result : next.result? = run.result?) : Moves setup run turn next
  | told {now : Duration} {next : Run} (running : run.phase = .running)
      (early : setup.plan.schedule.isFinished now = false)
      (told : run.pool.reap.setTarget now setup.plan.maxUsers (setup.usersAt now) = .ok next.pool)
      (result : next.result? = none) : Moves setup run (.happens now .tick) next
  | closes {turn : Turn} (status : RunStatus) (now : Duration) :
    Moves setup run turn (run.close setup status now)

theorem moves_tick (running : run.phase = .running) (now : Duration) :
    Moves setup run (.happens now .tick) (run.tick setup now) := by
  obtain ⟨samePool, samePhase, -⟩ := announce_frame run setup.plan.schedule now
  have open' : run.result? = none := by rw [result?, running]
  unfold tick
  dsimp only
  rw [samePool]
  split
  · refine .lessens (run.pool.lessens_reap.trans (Pool.lessens_map User.retire _)) ?_
    rw [open']
    rfl
  · rename_i going
    cases told : run.pool.reap.setTarget now setup.plan.maxUsers (setup.usersAt now) with
    | error fault =>
      refine .lessens run.pool.lessens_reap ?_
      rw [open']
      rfl
    | ok pool =>
      refine .told running (Bool.eq_false_of_not_eq_true going) told ?_
      unfold result?
      dsimp only
      rw [samePhase, running]

/-- **Every turn does one of these things.** -/
theorem moves_turn (setup : Setup) (run : Run) (turn : Turn) :
    Moves setup run turn (run.turn setup turn) := by
  have unchanged : ∀ turn, Moves setup run turn run := fun _ => .lessens (.refl _) rfl
  have retires : run.pool.Lessens run.pool.retireAll := Pool.lessens_map User.retire run.pool
  have advances : ∀ now id signal,
      Moves setup run (.happens now (.user id signal)) (run.advance setup now id signal) := by
    intro now id signal
    unfold advance
    cases run.pool.find? id with
    | none => exact unchanged _
    | some user => exact .lessens (Pool.lessens_map _ _) rfl
  cases turn with
  | token => exact .lessens (.refl _) rfl
  | happens now happening =>
    show Moves setup run _ (run.step setup now happening)
    unfold step
    cases phase : run.phase with
    | closed | faulted => exact unchanged _
    | running =>
      have open' : run.result? = none := by rw [result?, phase]
      cases happening with
      | user id signal => exact advances now id signal
      | tick => exact moves_tick phase now
      | cancel | deadline | abort => exact .lessens retires open'.symm
      | watch =>
        dsimp only
        unfold watch
        split
        · exact unchanged _
        · exact .lessens retires open'.symm
      | graceOver | close => exact unchanged _
    | stopping status since =>
      have open' : run.result? = none := by rw [result?, phase]
      cases happening with
      | user id signal => exact advances now id signal
      | abort => exact .lessens (.refl _) open'.symm
      | graceOver =>
        obtain ⟨samePhase, samePool, -⟩ := @graceOver_still setup run
        refine .lessens ?_ ?_
        · dsimp only
          rw [samePool]
          exact .refl _
        · dsimp only
          rw [result?, result?, samePhase]
      | close =>
        dsimp only
        split
        · exact .closes status now
        · exact unchanged _
      | tick | cancel | deadline | watch => exact unchanged _

/-! ### What one turn keeps -/

/-- **What holds of the users of a run at every moment**: active ones are allowed, and the peak
counts all of them. -/
structure Counted (setup : Setup) (run : Run) : Prop where
  live : run.pool.live ≤ setup.plan.maxUsers
  size : run.pool.size ≤ run.pool.peak
  result : ∀ result, run.result? = some result → result.peakUsers = run.pool.peak

theorem counted_start (setup : Setup) : Counted setup (start setup) :=
  ⟨Nat.zero_le _, le_rfl, nofun⟩

/-- **What a turn does to the number of users**: the peak counts those that are there now, and only
where users are added there are more than before, those that drain staying. -/
structure Counts (setup : Setup) (run : Run) (turn : Turn) (next : Run) : Prop where
  counted : Counted setup next
  peak : next.pool.peak = max run.pool.peak next.pool.size
  grows : run.pool.size < next.pool.size → ∃ now, turn = .happens now .tick ∧
    Grows setup run now ∧ next.pool.size = setup.usersAt now + run.pool.reap.draining.length

theorem Moves.counts {turn : Turn} (moves : Moves setup run turn next)
    (counted : Counted setup run) : Counts setup run turn next := by
  cases moves with
  | lessens pool result =>
    have size : next.pool.size ≤ run.pool.peak := pool.size.trans counted.size
    refine ⟨⟨pool.live.trans counted.live, ?_, fun found there => ?_⟩, ?_, fun more => ?_⟩
    · rw [pool.peak]
      exact size
    · rw [pool.peak]
      exact counted.result found (result.symm.trans there)
    · rw [pool.peak, max_eq_left size]
    · exact absurd more pool.size.not_gt
  | @told now _ running early told result =>
    have reaped := run.pool.lessens_reap
    have before : run.pool.reap.size ≤ run.pool.reap.peak := by
      rw [reaped.peak]
      exact reaped.size.trans counted.size
    obtain ⟨allowed, live, peak, grown⟩ := Pool.told_size before told
    rw [reaped.peak] at peak
    refine ⟨⟨live.le.trans allowed, ?_, fun found there => ?_⟩, peak, fun more => ?_⟩
    · rw [peak]
      exact le_max_right _ _
    · rw [result] at there
      contradiction
    · rcases grown with fewer | ⟨fewer, draining⟩
      · exact absurd more (fewer.trans reaped.size).not_gt
      · refine ⟨now, rfl, ⟨running, early, fewer, allowed⟩, ?_⟩
        rw [Pool.size_add, live, draining]
  | closes status now =>
    have same : (run.close setup status now).pool.size = run.pool.size :=
      length_dropAll now run.pool.users run.journal
    refine ⟨⟨Nat.zero_le _, ?_, fun found there => ?_⟩, ?_, fun more => ?_⟩
    · rw [same]
      exact counted.size
    · obtain rfl := Option.some.inj there
      rfl
    · rw [same]
      exact (max_eq_left counted.size).symm
    · exact absurd more same.le.not_gt

theorem Counted.turn (counted : Counted setup run) (turn : Turn) :
    Counts setup run turn (run.turn setup turn) :=
  (moves_turn setup run turn).counts counted

theorem counted_moment (setup : Setup) (turns : List Turn) :
    Counted setup (moment setup turns) := by
  induction turns using List.reverseRecOn with
  | nil => exact counted_start setup
  | append_singleton turns turn ih =>
    rw [moment_concat]
    exact (ih.turn turn).counted

theorem counts_moment (setup : Setup) (turns : List Turn) (turn : Turn) :
    Counts setup (moment setup turns) turn (moment setup (turns ++ [turn])) := by
  rw [moment_concat]
  exact (counted_moment setup turns).turn turn

/-! ### Whole runs -/

/-- The peak is reached. -/
theorem peak_le_iff (setup : Setup) (turns : List Turn) (most : ℕ) :
    (moment setup turns).pool.peak ≤ most ↔
      ∀ before rest, turns = before ++ rest → (moment setup before).pool.size ≤ most := by
  induction turns using List.reverseRecOn with
  | nil =>
    constructor
    · intro _ before rest nothing
      obtain ⟨rfl, -⟩ := List.append_eq_nil_iff.mp nothing.symm
      exact Nat.zero_le most
    · exact fun _ => Nat.zero_le most
  | append_singleton turns turn ih =>
    rw [(counts_moment setup turns turn).peak, max_le_iff, ih]
    constructor
    · rintro ⟨earlier, now⟩ before rest split
      rcases List.eq_nil_or_concat rest with rfl | ⟨middle, last, rfl⟩
      · rw [List.append_nil] at split
        exact split ▸ now
      · rw [List.concat_eq_append, ← List.append_assoc] at split
        exact earlier before middle (List.append_inj_left' split rfl)
    · intro all
      refine ⟨fun before rest split => all before (rest ++ [turn]) ?_, all _ [] ?_⟩
      · rw [split, List.append_assoc]
      · exact (List.append_nil _).symm

/-- Where users are added, as many are active as are asked for, and those that drain stay. -/
theorem Grows.size {now : Duration} (grows : Grows setup run now) :
    (run.turn setup (.happens now .tick)).pool.size =
      setup.usersAt now + run.pool.reap.draining.length := by
  obtain ⟨running, early, fewer, allowed⟩ := grows
  obtain ⟨samePool, -, -⟩ := announce_frame run setup.plan.schedule now
  have told : run.pool.reap.setTarget now setup.plan.maxUsers (setup.usersAt now) =
      .ok (run.pool.reap.grow now (setup.usersAt now - run.pool.reap.live)).notePeak := by
    unfold Pool.setTarget
    rw [if_neg allowed.not_gt, if_neg fewer.ne, if_neg fewer.not_gt]
  have ticked : (run.turn setup (.happens now .tick)).pool =
      (run.pool.reap.grow now (setup.usersAt now - run.pool.reap.live)).notePeak := by
    show (run.step setup now .tick).pool = _
    unfold step
    rw [running]
    dsimp only
    unfold tick
    dsimp only
    rw [samePool, early, told]
    rfl
  rw [ticked, Pool.size_add]
  congr 1
  show (run.pool.reap.active ++ _).length = _
  rw [List.length_append, List.length_map, List.length_range']
  exact Nat.add_sub_cancel' fewer.le

/-- **The peak is within the cap if and only if, wherever users were added, there was room for
them** beside those that drained. -/
theorem peak_le_maxUsers_iff (setup : Setup) (turns : List Turn) :
    (moment setup turns).pool.peak ≤ setup.plan.maxUsers ↔
      ∀ before now rest, turns = before ++ .happens now .tick :: rest →
        Grows setup (moment setup before) now →
          setup.usersAt now + (moment setup before).pool.reap.draining.length ≤
            setup.plan.maxUsers := by
  constructor
  · rintro within before now rest rfl grows
    rw [← grows.size, ← moment_concat]
    exact (peak_le_iff setup _ _).mp within (before ++ [.happens now .tick]) rest (by simp)
  · intro room
    induction turns using List.reverseRecOn with
    | nil => exact Nat.zero_le _
    | append_singleton turns turn ih =>
      have counts := counts_moment setup turns turn
      have earlier : (moment setup turns).pool.peak ≤ setup.plan.maxUsers := by
        refine ih fun before now rest split grows => ?_
        exact room before now (rest ++ [turn]) (by simp [split]) grows
      rw [counts.peak]
      refine max_le earlier ?_
      by_cases more : (moment setup turns).pool.size < (moment setup (turns ++ [turn])).pool.size
      · obtain ⟨now, rfl, grows, size⟩ := counts.grows more
        rw [size]
        exact room turns now [] rfl grows
      · exact (not_lt.mp more).trans ((counted_moment setup turns).size.trans earlier)

/-- **What the cap on users bounds**, at some moment of a run. -/
structure Capped (setup : Setup) (turns : List Turn) : Prop where
  /-- There are never more active users than are allowed. -/
  live : (moment setup turns).pool.live ≤ setup.plan.maxUsers
  /-- There are more users than before only where a tick adds some. -/
  grows : ∀ turn, (moment setup turns).pool.size < (moment setup (turns ++ [turn])).pool.size →
    ∃ now, turn = .happens now .tick ∧ Grows setup (moment setup turns) now
  /-- Then as many are active as it asks for, and those that drain are still there. -/
  added : ∀ now, Grows setup (moment setup turns) now →
    (moment setup (turns ++ [.happens now .tick])).pool.size =
      setup.usersAt now + (moment setup turns).pool.reap.draining.length
  /-- The peak is the largest number of users at any moment up to now. -/
  peak : ∀ most, (moment setup turns).pool.peak ≤ most ↔
    ∀ before rest, turns = before ++ rest → (moment setup before).pool.size ≤ most
  /-- The peak is within the cap if and only if, wherever users were added, there was room for them
  beside those that drained. -/
  within : (moment setup turns).pool.peak ≤ setup.plan.maxUsers ↔
    ∀ before now rest, turns = before ++ .happens now .tick :: rest →
      Grows setup (moment setup before) now →
        setup.usersAt now + (moment setup before).pool.reap.draining.length ≤ setup.plan.maxUsers
  /-- The result of the run reports the peak. -/
  result : ∀ result, (moment setup turns).result? = some result →
    result.peakUsers = (moment setup turns).pool.peak

/-- **Every run is capped so at every moment**, however long its users take. -/
theorem capped_moment (setup : Setup) (turns : List Turn) : Capped setup turns where
  live := (counted_moment setup turns).live
  grows turn more := by
    obtain ⟨now, rfl, grows, -⟩ := (counts_moment setup turns turn).grows more
    exact ⟨now, rfl, grows⟩
  added now grows := by
    rw [moment_concat]
    exact grows.size
  peak := peak_le_iff setup turns
  within := peak_le_maxUsers_iff setup turns
  result := (counted_moment setup turns).result

/-- One user is allowed. The schedule asks for it, then for none, and then for one again, while its
iterations take longer than all of that. -/
def relapsing : Setup :=
  .of { Plan.named "cap" with
    schedule := ⟨1, [⟨.ofMillis 50, 1⟩, ⟨.zero, 0⟩, ⟨.ofMillis 100, 0⟩, ⟨.zero, 1⟩,
      ⟨.ofMillis 100, 1⟩]⟩
    maxUsers := 1 } fun _ _ => .sleep (.ofMillis 1053) (.finish none)

/-- The first user is still in its iteration when the second one begins. -/
def relapses : List Turn :=
  [(.zero, .tick), (.zero, .user 1 .wake), (.ofMillis 100, .tick), (.ofMillis 200, .tick),
    (.ofMillis 200, .user 2 .wake), (.ofMillis 300, .tick), (.ofMillis 1053, .user 1 .wake),
    (.ofMillis 1053, .user 1 .wake), (.ofMillis 1253, .user 2 .wake),
    (.ofMillis 1253, .user 2 .wake), (.ofMillis 1253, .close)].map fun (now, happening) =>
      .happens now happening

/-- **The cap does not bound all users**, nor the peak that a run reports. -/
theorem size_le_maxUsers_fails : ¬ ∀ (setup : Setup) (turns : List Turn),
    setup.plan.validate = .ok setup.plan → setup.usersAt = setup.plan.schedule.usersAt →
      (moment setup turns).pool.size ≤ setup.plan.maxUsers ∧
        ∀ result, (moment setup turns).result? = some result →
          result.peakUsers ≤ setup.plan.maxUsers := by
  intro always
  have most := (always relapsing relapses rfl rfl).1
  have two : (moment relapsing relapses).pool.size = 2 := by decide +kernel
  rw [two] at most
  exact absurd most (by decide)

end Run

end LoadTest
