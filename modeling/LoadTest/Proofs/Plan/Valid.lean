/-
**What a validated plan promises.**

Validation returns the plan as it is, or its first fault. A plan that comes back allows some user,
has a tick, and has no duration, target, pause or header that a run could not use.

* `Plan.Checked`: these promises;
* `Plan.checked_of_validate`: a validated plan keeps them;
* `Plan.le_of_checkLength`, `Plan.le_of_checkSleep`: what passes is not longer than supported;
* `Plan.peak_le`: no schedule of a validated plan asks for more users than are allowed;
* `Plan.total_le`: it is not longer than supported.
-/

import LoadTest.Plan.Basic
import LoadTest.Proofs.Schedule.Place
import LoadTest.Proofs.Sequence

namespace LoadTest

namespace Plan

/-- **What validation looks at.** -/
structure Checked (plan : Plan) : Prop where
  users : plan.maxUsers ≠ 0
  ticks : plan.tick.isZero = false
  lengths : ∀ named ∈ plan.namedDurations, named.2.nanos ≤ longestSupported.nanos
  caps : ∀ target ∈ plan.targets, target.2 ≤ plan.maxUsers
  pause : checkSleep plan.sleep = .ok ()
  headers : ∀ header ∈ plan.headers, checkHeader header.1 header.2 = .ok ()

/-- **A plan that comes back from validation is unchanged, and checked.** -/
theorem checked_of_validate {plan result : Plan} (valid : plan.validate = .ok result) :
    result = plan ∧ plan.Checked := by
  unfold validate at valid
  by_cases none : plan.maxUsers = 0
  · rw [if_pos none] at valid
    contradiction
  by_cases still : plan.tick.isZero = true
  · rw [if_neg none, if_pos still] at valid
    contradiction
  rw [if_neg none, if_neg still] at valid
  change ((plan.namedDurations.forM fun named => checkLength named.1 named.2) >>= fun _ =>
    (plan.targets.forM fun target => if plan.maxUsers < target.2 then
      .error (.userCap target.1 target.2 plan.maxUsers) else .ok ()) >>= fun _ =>
    checkSleep plan.sleep >>= fun _ =>
    (plan.headers.forM fun header => checkHeader header.1 header.2) >>= fun _ => .ok plan) = _
    at valid
  obtain ⟨⟨⟩, lengths, valid⟩ := ok_of_bind valid
  obtain ⟨⟨⟩, caps, valid⟩ := ok_of_bind valid
  obtain ⟨⟨⟩, pause, valid⟩ := ok_of_bind valid
  obtain ⟨⟨⟩, headers, valid⟩ := ok_of_bind valid
  refine ⟨(Except.ok.inj valid).symm, none, by simpa using still, ?_, ?_, pause, ?_⟩
  · intro named member
    have passed := all_of_forM lengths named member
    by_contra long
    have above : longestSupported < named.2 := Nat.lt_of_not_le long
    change checkLength named.1 named.2 = .ok () at passed
    rw [checkLength, if_pos above] at passed
    contradiction
  · intro target member
    have passed := all_of_forM caps target member
    by_contra above
    change (if plan.maxUsers < target.2 then _ else _) = _ at passed
    rw [if_pos (Nat.lt_of_not_le above)] at passed
    contradiction
  · exact fun header member => all_of_forM headers header member

/-! ### Lengths -/

theorem le_of_checkLength {what : String} {value : Duration}
    (passed : checkLength what value = .ok ()) : value ≤ longestSupported := by
  by_contra long
  have above : longestSupported < value := Nat.lt_of_not_le long
  rw [checkLength, if_pos above] at passed
  contradiction

/-- A pause that passes has its ends in order and is not too long. -/
theorem le_of_checkSleep {least most : Duration}
    (passed : checkSleep (some (.uniform least most)) = .ok ()) :
    least ≤ most ∧ most ≤ longestSupported := by
  change (if most < least then .error (.invertedSleep least most)
    else checkLength "sleep" most) = Except.ok () at passed
  by_cases inverted : most < least
  · rw [if_pos inverted] at passed
    contradiction
  · rw [if_neg inverted] at passed
    exact ⟨Nat.le_of_not_lt inverted, le_of_checkLength passed⟩

/-! ### Promises -/

section Promises

variable {plan : Plan}

/-- **No schedule asks for more users than are allowed.** -/
theorem peak_le (checked : plan.Checked) : plan.schedule.peak ≤ plan.maxUsers := by
  have start : plan.schedule.startUsers ≤ plan.maxUsers :=
    checked.caps (0, plan.schedule.startUsers) List.mem_cons_self
  have targets : ∀ target ∈ plan.schedule.stages.map Stage.target, target ≤ plan.maxUsers := by
    intro target member
    obtain ⟨stage, inside, rfl⟩ := List.mem_map.mp member
    obtain ⟨place, here⟩ := List.mem_iff_getElem?.mp inside
    refine checked.caps (place, stage.target) (List.mem_cons_of_mem _ ?_)
    exact List.mem_map.mpr ⟨(stage, place), List.mem_zipIdx_iff_getElem?.mpr here, rfl⟩
  unfold Schedule.peak
  generalize plan.schedule.stages.map Stage.target = levels at targets
  generalize plan.schedule.startUsers = first at start
  induction levels generalizing first with
  | nil => exact start
  | cons level rest ih =>
    have now := targets level List.mem_cons_self
    have later : ∀ target ∈ rest, target ≤ plan.maxUsers := fun target member =>
      targets target (List.mem_cons_of_mem _ member)
    exact ih later (max first level) (max_le start now)

/-- **No schedule is longer than supported.** -/
theorem total_le (checked : plan.Checked) :
    plan.schedule.total.nanos ≤ longestSupported.nanos :=
  checked.lengths ("Schedule", plan.schedule.total) (by simp [namedDurations])

end Promises

end Plan

end LoadTest
