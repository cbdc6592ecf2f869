/-
**Stages given on the command line.**

Stages that replace those of a plan file are written down in units and read back when the file is
resolved. Nothing is lost on the way: the plan has exactly these stages, whatever else the file
says, and it is resolved exactly if the rest of the file is and the plan with these stages is valid.

* `Plan.validate_of_checked`: a plan of which all promises hold is valid;
* `mapM_spec`: stages that are written down are read back;
* `PlanFile.resolve_iff`: a plan file of such stages is resolved as the rest of it;
* `RunOptions.stages_survive`: stages of the options are those of the plan.
-/

import LoadTest.Command.RunOptions
import LoadTest.Plan.Resolve
import LoadTest.Proofs.Duration.Text
import LoadTest.Proofs.Plan.Valid

namespace LoadTest

/-! ### Valid plans -/

namespace Plan

variable {plan : Plan}

/-- **A checked plan is valid.** -/
theorem validate_of_checked (checked : plan.Checked) : plan.validate = .ok plan := by
  obtain ⟨users, ticks, lengths, caps, pause, headers⟩ := checked
  have short : (plan.namedDurations.forM fun named => checkLength named.1 named.2) = .ok () := by
    refine forM_of_all fun named member => ?_
    exact if_neg (Nat.not_lt_of_le (lengths named member))
  have few : (plan.targets.forM fun target => if plan.maxUsers < target.2 then
      .error (.userCap target.1 target.2 plan.maxUsers) else .ok ()) =
      (.ok () : Except PlanFault _) :=
    forM_of_all fun target member => if_neg (caps target member).not_gt
  have fit : (plan.headers.forM fun header => checkHeader header.1 header.2) = .ok () :=
    forM_of_all headers
  unfold validate
  rw [if_neg users, ticks]
  change ((plan.namedDurations.forM fun named => checkLength named.1 named.2) >>= fun _ =>
    (plan.targets.forM fun target => if plan.maxUsers < target.2 then
      .error (.userCap target.1 target.2 plan.maxUsers) else .ok ()) >>= fun _ =>
    checkSleep plan.sleep >>= fun _ =>
    (plan.headers.forM fun header => checkHeader header.1 header.2) >>= fun _ => .ok plan) = _
  rw [short, few, pause, fit]
  rfl

/-- The plan with other stages. -/
def withStages (plan : Plan) (stages : List Stage) : Plan :=
  { plan with schedule := { plan.schedule with stages } }

/-- **What is checked of a plan is not more without its stages.** -/
theorem Checked.withoutStages (checked : plan.Checked) : (plan.withStages []).Checked := by
  refine ⟨checked.users, checked.ticks, ?_, ?_, checked.pause, checked.headers⟩
  · intro named member
    rcases List.mem_append.1 member with own | delay
    · rcases List.mem_cons.1 own with rfl | other
      · exact Nat.zero_le _
      · exact checked.lengths named
          (List.mem_append_left _ (List.mem_cons_of_mem _ other))
    · exact checked.lengths named (List.mem_append_right _ delay)
  · intro target member
    obtain rfl : target = (0, plan.schedule.startUsers) := List.mem_singleton.1 member
    exact checked.caps _ List.mem_cons_self

end Plan

/-! ### Stages that are written down -/

/-- **Stages that are written down are read back**, each as it was and in their order. -/
theorem mapM_spec (stages : List Stage) :
    ((stages.map Stage.spec).mapM fun stage => do
      return (⟨← stage.duration.resolve, stage.target⟩ : Stage)) = .ok stages := by
  refine mapM_of_forall₂ ?_
  induction stages with
  | nil => exact .nil
  | cons stage rest ih =>
    refine .cons ?_ ih
    have duration : stage.spec.duration.resolve = .ok stage.duration := by
      show (Duration.parse (Units.format stage.duration)).mapError _ = _
      rw [Duration.parse_format]
      rfl
    rw [duration]
    rfl

/-- **A plan file of stages that were written down is resolved as the rest of it**: its plan has
these stages, and has to be valid with them. -/
theorem PlanFile.resolve_iff {file : PlanFile} {environment : Environment} {stages : List Stage}
    {resolved : ResolvedPlan} :
    { file with stages := stages.map Stage.spec }.resolve environment = .ok resolved ↔
      ∃ rest, { file with stages := [] }.resolve environment = .ok rest ∧
        (rest.plan.withStages stages).validate = .ok resolved.plan ∧
          resolved.requests = rest.requests := by
  unfold PlanFile.resolve
  dsimp only
  simp only [bind_eq_ok_iff]
  constructor
  · rintro ⟨own, written, thresholds, judged, baseUrl, based, headers, filled, sleep, slept, tick,
      ticked, gracefulStop, stopped, timeout, timed, interval, looked, requests, made, plan, valid,
      same⟩
    obtain rfl : ⟨plan, requests⟩ = resolved := Except.ok.inj same
    obtain rfl : stages = own := Except.ok.inj ((mapM_spec stages).symm.trans written)
    obtain ⟨unchanged, checked⟩ := Plan.checked_of_validate valid
    have rest := Plan.validate_of_checked checked.withoutStages
    exact ⟨⟨_, requests⟩, ⟨[], rfl, thresholds, judged, baseUrl, based, headers, filled, sleep,
      slept, tick, ticked, gracefulStop, stopped, timeout, timed, interval, looked, requests, made,
      _, rest,
      rfl⟩, valid, rfl⟩
  · rintro ⟨rest, ⟨own, written, thresholds, judged, baseUrl, based, headers, filled, sleep, slept,
      tick, ticked, gracefulStop, stopped, timeout, timed, interval, looked, requests, made, plan,
      bare, same⟩, valid, sent⟩
    obtain rfl : ⟨plan, requests⟩ = rest := Except.ok.inj same
    obtain rfl : [] = own := Except.ok.inj written
    obtain ⟨rfl, -⟩ := Plan.checked_of_validate bare
    refine ⟨stages, mapM_spec stages, thresholds, judged, baseUrl, based, headers, filled, sleep,
      slept, tick, ticked, gracefulStop, stopped, timeout, timed, interval, looked, requests, made,
      resolved.plan, valid, ?_⟩
    exact congrArg (fun requests => Except.ok (ResolvedPlan.mk resolved.plan requests)) sent.symm

/-- **Durations survive their text form, and stages of the options are those of the plan.** Every
duration is read back from its text. If there are stages among the options, a plan file is resolved
exactly if what it says besides can be resolved and the plan with these stages is valid; and then
the plan has these stages, and all else is as the rest of the file says. -/
theorem RunOptions.stages_survive :
    (∀ d : Duration, (DurationSpec.ofDuration d).toDuration = .ok d) ∧
      ∀ (options : RunOptions) (file : PlanFile) (environment : Environment)
        (resolved : ResolvedPlan), options.stages ≠ [] →
        ((options.apply file).resolve environment = .ok resolved ↔
          ∃ rest, { options.apply file with stages := [] }.resolve environment = .ok rest ∧
            (rest.plan.withStages options.stages).validate = .ok resolved.plan ∧
              resolved.requests = rest.requests) ∧
        ((options.apply file).resolve environment = .ok resolved →
          resolved.plan.schedule.stages = options.stages) := by
  refine ⟨Duration.parse_format, fun options file environment resolved given => ?_⟩
  have replaced : options.apply file =
      { options.apply file with stages := options.stages.map Stage.spec } := by
    unfold RunOptions.apply
    rw [if_neg (by simpa using given)]
  have resolution : (options.apply file).resolve environment = .ok resolved ↔
      ∃ rest, { options.apply file with stages := [] }.resolve environment = .ok rest ∧
        (rest.plan.withStages options.stages).validate = .ok resolved.plan ∧
          resolved.requests = rest.requests := by
    rw [replaced]
    exact PlanFile.resolve_iff
  refine ⟨resolution, fun accepted => ?_⟩
  obtain ⟨rest, -, valid, -⟩ := resolution.1 accepted
  rw [(Plan.checked_of_validate valid).1]
  rfl

/-- A month and some with a nanosecond, and an empty stage, for stages that cannot be read. -/
theorem RunOptions.stages_survive_month :
    let options : RunOptions :=
      { plan := "plan.json", maxUsers := none, duration := none
        stages := [⟨.ofNanos 2700000000000001, 3⟩, ⟨.zero, 0⟩], format := .text
        summaryExport := none, noThresholds := false, baseUrl := none }
    let file : PlanFile :=
      { name := none, stages := [⟨.text "soon", 7⟩], startUsers := some 1, thresholds := .empty
        baseUrl := none, headers := .empty, sleep := none, maxUsers := some 5, tick := none
        gracefulStop := none, timeout := none, thresholdInterval := none, tags := .empty
        requests := [] }
    options.stages ≠ [] ∧ ∃ resolved, (options.apply file).resolve (fun _ => none) = .ok resolved ∧
      resolved.plan.schedule.stages = options.stages := by
  intro options file
  have given : options.stages ≠ [] := List.cons_ne_nil _ _
  have accepted : ((options.apply file).resolve fun _ => none).toOption.isSome = true := by
    decide +kernel
  cases result : (options.apply file).resolve fun _ => none with
  | error fault =>
    rw [result] at accepted
    contradiction
  | ok resolved =>
    exact ⟨given, resolved, rfl,
      (RunOptions.stages_survive.2 options file _ resolved given).2 result⟩

end LoadTest
