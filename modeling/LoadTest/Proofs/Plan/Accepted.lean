/-
**What an accepted plan file never meets later.**

Resolving a plan file checks the plan and its requests; making a script of the requests, starting a
run of the plan and making its client check them again, in other words. What passes the first checks
passes all others, and a run that computes its users exactly never asks for more than are allowed.

* `RequestStep.resolve_eq_ok_iff`: what a request is resolved to;
* `RequestStep.Accepted`, `RequestStep.accepted_of_resolve`: what is checked of a request;
* `PlanFile.parts_of_resolve`: what is checked of a plan file;
* `Schedule.usersIn_le_peak`: at no time does a schedule ask for more users than its peak;
* `Run.unfaulted_of_allowed`: a run that never asks for more than are allowed has no fault;
* `ResolvedPlan.Runnable`, `PlanFile.runnable_of_resolve`: an accepted plan can be run.
-/

import LoadTest.Proofs.Http.Headers
import LoadTest.Proofs.Run.Ramp
import LoadTest.Proofs.Table

namespace LoadTest

/-! ### Requests -/

/-- What is checked of a request of a plan file. -/
structure RequestStep.Accepted (step : RequestStep) : Prop where
  method : step.method ∈ supportedMethods
  checks : ∀ check ∈ step.checks,
    ∃ longest, resolveOption DurationSpec.resolve check.maxDuration = .ok longest
  headers : ∀ header ∈ step.headers.toList, Header.Fit header.1 header.2

theorem Plan.fit_of_checkHeader {name value : String}
    (passed : Plan.checkHeader name value = .ok ()) : Header.Fit name value := by
  unfold checkHeader at passed
  cases checked : Header.check name value with
  | ok done => exact Header.fit_of_check checked
  | error fault =>
    rw [checked] at passed
    contradiction

theorem fit_of_resolveHeader {environment : Environment} {header result : String × String}
    (resolved : resolveHeader environment header = .ok result) : Header.Fit result.1 result.2 := by
  unfold resolveHeader at resolved
  obtain ⟨value, -, resolved⟩ := ok_of_bind resolved
  obtain ⟨⟨⟩, passed, resolved⟩ := ok_of_bind resolved
  obtain rfl : (header.1, value) = result := Except.ok.inj resolved
  exact Plan.fit_of_checkHeader passed

/-- **What a request is resolved to**, and what is checked before that. -/
theorem RequestStep.resolve_eq_ok_iff {environment : Environment} {place : ℕ}
    {declared step : RequestStep} : declared.resolve environment place = .ok step ↔
      declared.method.map Char.toUpper ∈ supportedMethods ∧
      (declared.json.isSome && declared.body.isSome) = false ∧
      (∀ check ∈ declared.checks,
        ∃ longest, resolveOption DurationSpec.resolve check.maxDuration = .ok longest) ∧
      ∃ headers url body, declared.headers.toList.mapM (resolveHeader environment) = .ok headers ∧
        environment.resolve declared.url = .ok url ∧
        resolveOption environment.resolve declared.body = .ok body ∧
        step = { declared with
          method := declared.method.map Char.toUpper, url, headers := .ofList headers, body } := by
  unfold RequestStep.resolve
  rw [← List.contains_iff_mem]
  dsimp only
  by_cases supported : supportedMethods.contains (declared.method.map Char.toUpper) = true
  swap
  · rw [if_pos (by simpa using supported)]
    exact ⟨fun resolved => by contradiction, fun parts => absurd parts.1 supported⟩
  rw [if_neg (by simpa using supported)]
  by_cases both : (declared.json.isSome && declared.body.isSome) = true
  · rw [if_pos both]
    exact ⟨fun resolved => by contradiction, fun parts => by cases both.symm.trans parts.2.1⟩
  rw [if_neg both]
  constructor
  · intro resolved
    obtain ⟨⟨⟩, checks, resolved⟩ := ok_of_bind resolved
    obtain ⟨headers, filled, resolved⟩ := ok_of_bind resolved
    obtain ⟨url, isUrl, resolved⟩ := ok_of_bind resolved
    obtain ⟨body, isBody, resolved⟩ := ok_of_bind resolved
    refine ⟨supported, Bool.eq_false_of_not_eq_true both, fun check member => ?_, headers, url,
      body, filled, isUrl, isBody, (Except.ok.inj resolved).symm⟩
    obtain ⟨longest, found, -⟩ := ok_of_bind (all_of_forM checks check member)
    exact ⟨longest, found⟩
  · rintro ⟨-, -, checks, headers, url, body, filled, isUrl, isBody, rfl⟩
    refine bind_eq_ok_iff.mpr ⟨(), forM_of_all fun check member => ?_, ?_⟩
    · obtain ⟨longest, found⟩ := checks check member
      rw [found]
      rfl
    · refine bind_eq_ok_iff.mpr ⟨headers, filled, ?_⟩
      exact bind_eq_ok_iff.mpr ⟨url, isUrl, bind_eq_ok_iff.mpr ⟨body, isBody, rfl⟩⟩

/-- **A request that is resolved is accepted.** -/
theorem RequestStep.accepted_of_resolve {environment : Environment} {place : ℕ}
    {declared step : RequestStep} (resolved : declared.resolve environment place = .ok step) :
    step.Accepted := by
  obtain ⟨supported, -, checks, headers, url, body, filled, -, -, rfl⟩ :=
    resolve_eq_ok_iff.mp resolved
  refine ⟨supported, checks, fun header member => ?_⟩
  obtain ⟨source, -, same⟩ := exists_of_mem_results filled (Table.mem_ofList member)
  exact fit_of_resolveHeader same

/-- **An accepted request makes a step of a script.** -/
theorem RequestStep.exists_ofRequest {step : RequestStep} (accepted : step.Accepted) :
    ∃ result, ScriptStep.ofRequest step = .ok result := by
  have method : isMethod (step.method.map Char.toUpper) = true := by
    have all : ∀ text ∈ supportedMethods, isMethod (text.map Char.toUpper) = true := by
      decide +kernel
    exact all step.method accepted.method
  obtain ⟨checks, made⟩ := exists_mapM_iff.mpr fun check member => by
    obtain ⟨longest, found⟩ := accepted.checks check member
    have result : ResponseCheck.ofSpec check = .ok ⟨check.name, check.status, check.statusIn,
        check.bodyContains, longest⟩ := by
      unfold ResponseCheck.ofSpec
      rw [found]
      rfl
    exact ⟨_, result⟩
  unfold ScriptStep.ofRequest
  simp only [method, made]
  exact ⟨_, rfl⟩

theorem Script.exists_ofSteps {steps : List RequestStep}
    (accepted : ∀ step ∈ steps, step.Accepted) :
    ∃ script, Script.ofSteps steps = .ok script ∧ script.steps.length = steps.length := by
  obtain ⟨results, made⟩ :=
    exists_mapM_iff.mpr fun step member => RequestStep.exists_ofRequest (accepted step member)
  refine ⟨⟨results⟩, ?_, (forall₂_of_mapM made).length_eq.symm⟩
  unfold Script.ofSteps
  rw [made]
  rfl

/-! ### Plans -/

/-- **What comes out of a plan file is checked**, the plan as well as each request. -/
theorem PlanFile.parts_of_resolve {file : PlanFile} {environment : Environment}
    {resolved : ResolvedPlan} (accepted : file.resolve environment = .ok resolved) :
    resolved.plan.validate = .ok resolved.plan ∧ resolved.plan.Checked ∧
      ∀ step ∈ resolved.requests, step.Accepted := by
  unfold PlanFile.resolve at accepted
  dsimp only at accepted
  obtain ⟨stages, -, accepted⟩ := ok_of_bind accepted
  obtain ⟨thresholds, -, accepted⟩ := ok_of_bind accepted
  obtain ⟨baseUrl, -, accepted⟩ := ok_of_bind accepted
  obtain ⟨headers, -, accepted⟩ := ok_of_bind accepted
  obtain ⟨sleep, -, accepted⟩ := ok_of_bind accepted
  obtain ⟨tick, -, accepted⟩ := ok_of_bind accepted
  obtain ⟨gracefulStop, -, accepted⟩ := ok_of_bind accepted
  obtain ⟨timeout, -, accepted⟩ := ok_of_bind accepted
  obtain ⟨thresholdInterval, -, accepted⟩ := ok_of_bind accepted
  obtain ⟨requests, made, accepted⟩ := ok_of_bind accepted
  obtain ⟨plan, valid, accepted⟩ := ok_of_bind accepted
  obtain rfl : ⟨plan, requests⟩ = resolved := Except.ok.inj accepted
  obtain ⟨same, checked⟩ := Plan.checked_of_validate valid
  rw [← same] at valid checked
  refine ⟨valid, checked, fun step member => ?_⟩
  obtain ⟨⟨declared, place⟩, -, own⟩ := exists_of_mem_results made member
  exact RequestStep.accepted_of_resolve own

section Checked

variable {plan : Plan}

theorem Plan.fits_of_checked (checked : plan.Checked) : plan.schedule.Fits := by
  have short := Plan.total_le checked
  have room : longestSupported.nanos < Duration.longest.nanos := by decide +kernel
  rw [Schedule.nanos_total] at short
  unfold Schedule.Fits
  omega

/-- The headers of a checked plan are fit, so its client can be made. -/
theorem Client.exists_ofPlan (checked : plan.Checked) :
    (∀ header ∈ plan.headers, Header.Fit header.1 header.2) ∧
      ∃ client, Client.ofPlan plan = .ok client := by
  have fit : ∀ header ∈ plan.headers, Header.Fit header.1 header.2 := fun header member =>
    Plan.fit_of_checkHeader (checked.headers header member)
  obtain ⟨headers, set⟩ := Headers.setAll_fit fit .empty
  refine ⟨fit, ⟨plan.baseUrl, headers⟩, ?_⟩
  unfold Client.ofPlan
  rw [set]

end Checked

/-! ### Users -/

/-- **At no time does a schedule ask for more users than its peak.** -/
theorem Schedule.usersIn_le_peak {schedule : Schedule} (fits : schedule.Fits) (elapsed : Duration) :
    schedule.usersIn ℚ elapsed ≤ schedule.peak := by
  refine floor_half_le ?_
  by_cases within : elapsed.nanos ≤ spanOf schedule.stages
  · exact targetAt_le_peak fits within
  · have behind := Nat.lt_of_not_le within
    rw [targetAt_past fits behind.le, if_neg fun last => behind.ne' last.2]
    show ((0 : ℕ) : ℚ) ≤ schedule.peak
    exact_mod_cast Nat.zero_le _

theorem Pool.exists_setTarget (pool : Pool) (now : Duration) {cap target : ℕ}
    (allowed : target ≤ cap) : ∃ after, pool.setTarget now cap target = .ok after := by
  unfold setTarget
  rw [if_neg allowed.not_gt]
  split
  · exact ⟨pool, rfl⟩
  · split
    · exact ⟨_, rfl⟩
    · exact ⟨_, rfl⟩

namespace Run

variable {setup : Setup} {run : Run}

/-- A run that has no fault. -/
def Unfaulted (run : Run) : Prop := ∀ fault, run.phase ≠ .faulted fault

theorem unfaulted_stop (run : Run) (status : RunStatus) (now : Duration) :
    (run.stop status now).Unfaulted := fun _ same => by contradiction

theorem unfaulted_tick (allowed : ∀ time, setup.usersAt time ≤ setup.plan.maxUsers)
    (unfaulted : run.Unfaulted) (now : Duration) : (run.tick setup now).Unfaulted := by
  obtain ⟨-, phase, -⟩ := announce_frame run setup.plan.schedule now
  obtain ⟨pool, told⟩ :=
    (run.announce setup.plan.schedule now).pool.reap.exists_setTarget now (allowed now)
  unfold tick
  dsimp only
  split
  · exact unfaulted_stop _ _ _
  · rw [told]
    intro fault same
    exact unfaulted fault (phase.symm.trans same)

theorem unfaulted_step (allowed : ∀ time, setup.usersAt time ≤ setup.plan.maxUsers)
    (unfaulted : run.Unfaulted) (now : Duration) (happening : Happening) :
    (run.step setup now happening).Unfaulted := by
  unfold Run.step
  split
  case h_3 id signal _ _ =>
    unfold advance
    split
    · exact unfaulted
    · exact unfaulted
  case h_4 => exact unfaulted_tick allowed unfaulted now
  case h_5 => exact unfaulted_stop _ _ _
  case h_6 => exact unfaulted_stop _ _ _
  case h_7 => exact unfaulted_stop _ _ _
  case h_8 =>
    unfold watch
    split
    · exact unfaulted
    · exact unfaulted_stop _ _ _
  case h_12 =>
    unfold graceOver
    dsimp only
    split
    · exact unfaulted
    · split
      · exact unfaulted
      · exact unfaulted
  case h_13 =>
    split
    · exact fun fault same => by contradiction
    · exact unfaulted
  -- What is left changes the phase in no way.
  all_goals exact unfaulted

/-- **A run that never asks for more users than are allowed has no fault**, whatever happens. -/
theorem unfaulted_of_allowed (allowed : ∀ time, setup.usersAt time ≤ setup.plan.maxUsers)
    (happenings : List (Duration × Happening)) : (after setup happenings).Unfaulted := by
  have follow (run : Run) (unfaulted : run.Unfaulted) :
      (run.follow setup happenings).Unfaulted := by
    induction happenings generalizing run with
    | nil => exact unfaulted
    | cons next rest ih => exact ih _ (unfaulted_step allowed unfaulted next.1 next.2)
  exact follow _ fun fault same => by contradiction

end Run

/-! ### Plans that can be run -/

/-- **An accepted plan can be run**: no later check finds anything wrong with it. -/
structure ResolvedPlan.Runnable (resolved : ResolvedPlan) : Prop where
  /-- Its requests make a script of as many steps. -/
  script : ∃ script, Script.ofSteps resolved.requests = .ok script ∧
    script.steps.length = resolved.requests.length
  /-- A run takes the plan as it is. -/
  plan : resolved.plan.validate = .ok resolved.plan
  /-- Its client can be made, and every library takes its headers. -/
  client : ∃ client, Client.ofPlan resolved.plan = .ok client
  headers : ∀ header ∈ resolved.plan.headers, Header.Fit header.1 header.2
  stepHeaders : ∀ declared ∈ resolved.requests, ∀ header ∈ declared.headers.toList,
    Header.Fit header.1 header.2
  /-- A header of a step that names no variable is sent as it stands and taken. -/
  plain : ∀ declared ∈ resolved.requests, ∀ step, ScriptStep.ofRequest declared = .ok step →
    ∀ known request, step.prepare known = some request →
    ∀ header ∈ declared.headers.toList, Variables.names header.2 = [] →
      header ∈ request.headers ∧
        ∀ headers : Headers, ∃ more, headers.set header.1 header.2 = .ok more
  /-- If a header keeps a request from being sent, its value names a variable. -/
  unsent : ∀ declared ∈ resolved.requests, ∀ step, ScriptStep.ofRequest declared = .ok step →
    ∀ known request, step.prepare known = some request →
    ∀ client : Client, ∀ name fault, client.prepare request = .error (.header name fault) →
      ∃ value, (name, value) ∈ declared.headers.toList ∧ Variables.names value ≠ []
  /-- At every time the pool takes the number of users that the schedule asks for. -/
  users : ∀ (pool : Pool) (now elapsed : Duration), ∃ after,
    pool.setTarget now resolved.plan.maxUsers (resolved.plan.schedule.usersIn ℚ elapsed) = .ok after
  /-- Whatever happens to a run of the plan, it does not end with a fault of the plan. -/
  runs : ∀ setup : Setup, setup.plan = resolved.plan →
    setup.usersAt = resolved.plan.schedule.usersIn ℚ →
    ∀ happenings, (Run.after setup happenings).Unfaulted

/-- **An accepted plan never meets a fault of its configuration later.** -/
theorem PlanFile.runnable_of_resolve {file : PlanFile} {environment : Environment}
    {resolved : ResolvedPlan} (accepted : file.resolve environment = .ok resolved) :
    resolved.Runnable := by
  obtain ⟨valid, checked, requests⟩ := parts_of_resolve accepted
  obtain ⟨headers, client⟩ := Client.exists_ofPlan checked
  have allowed (elapsed : Duration) :
      resolved.plan.schedule.usersIn ℚ elapsed ≤ resolved.plan.maxUsers :=
    (Schedule.usersIn_le_peak (Plan.fits_of_checked checked) elapsed).trans (Plan.peak_le checked)
  have stepHeaders : ∀ declared ∈ resolved.requests, ∀ header ∈ declared.headers.toList,
      Header.Fit header.1 header.2 := fun declared member => (requests declared member).headers
  exact {
    script := Script.exists_ofSteps requests
    plan := valid
    client
    headers
    stepHeaders
    plain := by
      intro declared member step made known request ready header inside plain
      have own : header ∈ step.headers := by
        obtain ⟨checks, -, rfl⟩ := ScriptStep.ofRequest_eq_ok made
        exact inside
      refine ⟨ScriptStep.mem_headers_of_plain ready own plain, fun headers => ?_⟩
      unfold Headers.set
      rw [Header.checkSendable_of_fit (stepHeaders declared member header inside)]
      exact ⟨_, rfl⟩
    unsent := by
      intro declared member step made known request ready client name fault failed
      obtain ⟨value, inside, reason⟩ := ScriptStep.unfit_of_prepare ready failed
      obtain ⟨checks, -, rfl⟩ := ScriptStep.ofRequest_eq_ok made
      refine ⟨value, inside, reason.resolve_right fun unfit => unfit ?_⟩
      exact stepHeaders declared member (name, value) inside
    users := fun pool now elapsed => pool.exists_setTarget now (allowed elapsed)
    runs := by
      intro setup samePlan sameUsers happenings
      refine Run.unfaulted_of_allowed (fun time => ?_) happenings
      rw [samePlan, sameUsers]
      exact allowed time }

/-- A plan with a header, a stage and a request whose URL and one header name variables. -/
theorem PlanFile.runnable_token :
    let file : PlanFile :=
      { name := some "token", stages := [⟨.text "30s", 5⟩], startUsers := some 1, thresholds := .empty
        baseUrl := some "http://$\x7bHOST\x7d/", headers := .ofList [("Accept", "text/plain")]
        sleep := none, maxUsers := some 5, tick := none, gracefulStop := none, timeout := none
        thresholdInterval := none, tags := .empty
        requests := [
          { method := "get", url := "items/\x7b\x7bid\x7d\x7d", name := none
            headers := .ofList [("Accept", "*/*"), ("X-Token", "\x7b\x7btoken\x7d\x7d")]
            json := none, body := none, checks := [⟨"quick", some 200, none, none, some (.text "1s")⟩]
            captures := [] }] }
    let environment : Environment := fun name => if name = "HOST" then some "localhost" else none
    ∃ resolved, file.resolve environment = .ok resolved ∧ resolved.Runnable ∧
      resolved.requests.length = 1 := by
  intro file environment
  have accepted : (file.resolve environment).toOption.map (fun plan => plan.requests.length) =
      some 1 := by
    decide +kernel
  cases resolved : file.resolve environment with
  | error fault =>
    rw [resolved] at accepted
    contradiction
  | ok plan =>
    rw [resolved] at accepted
    exact ⟨plan, rfl, PlanFile.runnable_of_resolve resolved, Option.some.inj accepted⟩

end LoadTest
