/-
**The durations of a plan file.**

Durations stand in many places of a plan file. Resolving the file reads those that the plan is made
of, and validation bounds them, each one and the stages together. Two places are left: how long a
checked response may take is read but not bounded, since no check of the plan sees the requests, and
a delay of a threshold that cannot stop the run is not even read.

* `DurationSpec.Bounded`: a duration that is read and not longer than supported;
* `PlanFile.durations`: all durations of a plan file, by what becomes of them;
* `PlanFile.Parts`, `PlanFile.parts_resolved`: what a plan file that is resolved is made of;
* `PlanFile.resolve_withoutIdleDelays`: what is not read makes no difference;
* `PlanFile.timed_of_resolve`: the durations of a plan file that is resolved.
-/

import LoadTest.Proofs.Plan.Accepted

namespace LoadTest

/-! ### Where durations stand -/

/-- The duration is read and not longer than supported. -/
def DurationSpec.Bounded (spec : DurationSpec) : Prop :=
  ∃ span, spec.toDuration = .ok span ∧ span ≤ longestSupported

/-- The durations of a pause. -/
def SleepSpec.durations : SleepSpec → List DurationSpec
  | fixed span => [span]
  | range least most => [least, most]

namespace ThresholdSpec

/-- Whether the threshold may stop the run. -/
def mayStop : ThresholdSpec → Bool
  | expression _ => false
  | detailed _ abortOnFail _ => abortOnFail

/-- The delay that is written down, whether it counts or not. -/
def delay? : ThresholdSpec → Option DurationSpec
  | expression _ => none
  | detailed _ _ delay => delay

/-- The threshold without a delay that does not count. -/
def withoutIdleDelay : ThresholdSpec → ThresholdSpec
  | detailed text false _ => detailed text false none
  | spec => spec

end ThresholdSpec

namespace PlanFile

/-- The thresholds of all metrics. -/
def thresholdSpecs (file : PlanFile) : List ThresholdSpec := file.thresholds.toList.flatMap Prod.snd

/-- The durations that a plan is made of. -/
def plannedDurations (file : PlanFile) : List DurationSpec :=
  file.stages.map StageSpec.duration ++ file.sleep.toList.flatMap SleepSpec.durations ++
    [file.tick, file.gracefulStop, file.timeout, file.thresholdInterval].filterMap id ++
    (file.thresholdSpecs.filter ThresholdSpec.mayStop).filterMap ThresholdSpec.delay?

/-- The longest times of the responses that are checked. -/
def responseLimits (file : PlanFile) : List DurationSpec :=
  file.requests.flatMap fun step => step.checks.filterMap CheckSpec.maxDuration

/-- The delays of the thresholds that cannot stop the run. -/
def idleDelays (file : PlanFile) : List DurationSpec :=
  (file.thresholdSpecs.filter fun spec => !spec.mayStop).filterMap ThresholdSpec.delay?

/-- **All durations of a plan file.** -/
def durations (file : PlanFile) : List DurationSpec :=
  file.plannedDurations ++ file.responseLimits ++ file.idleDelays

/-- The plan file without the delays that do not count. -/
def withoutIdleDelays (file : PlanFile) : PlanFile :=
  { file with thresholds := file.thresholds.map fun _ => List.map ThresholdSpec.withoutIdleDelay }

end PlanFile

/-! ### What is read -/

theorem DurationSpec.toDuration_of_resolve {spec : DurationSpec} {span : Duration}
    (read : spec.resolve = .ok span) : spec.toDuration = .ok span := ok_of_mapError read

theorem resolveOption_some {β γ : Type} {resolve : β → Except PlanFault γ} {value : β}
    {result : Option γ} (made : resolveOption resolve (some value) = .ok result) :
    ∃ own, resolve value = .ok own ∧ result = some own := by
  obtain ⟨own, same, rfl⟩ := ok_of_map made
  exact ⟨own, same, rfl⟩

/-- A delay that counts is the one of the threshold. -/
theorem ThresholdSpec.delay_of_resolve {metric : String} {spec : ThresholdSpec}
    {threshold : Threshold} {delay : DurationSpec} (made : spec.resolve metric = .ok threshold)
    (stops : spec.mayStop = true) (own : spec.delay? = some delay) :
    ∃ span, delay.toDuration = .ok span ∧ threshold.abort = some ⟨some span⟩ := by
  cases spec with
  | expression text => contradiction
  | detailed text abortOnFail written =>
    obtain rfl : abortOnFail = true := stops
    obtain rfl : written = some delay := own
    obtain ⟨parsed, -, made⟩ := ok_of_bind made
    obtain ⟨found, read, made⟩ := ok_of_bind made
    obtain ⟨span, own, rfl⟩ := resolveOption_some read
    obtain rfl := Except.ok.inj made
    exact ⟨span, DurationSpec.toDuration_of_resolve own, rfl⟩

/-- A delay that does not count makes no difference. -/
theorem ThresholdSpec.resolve_withoutIdleDelay (metric : String) (spec : ThresholdSpec) :
    spec.withoutIdleDelay.resolve metric = spec.resolve metric := by
  rcases spec with text | ⟨text, _ | _, delay⟩ <;> rfl

/-- A request keeps its checks. -/
theorem RequestStep.checks_of_resolve {environment : Environment} {place : ℕ}
    {declared step : RequestStep} (resolved : declared.resolve environment place = .ok step) :
    step.checks = declared.checks := by
  obtain ⟨-, -, -, headers, url, body, -, -, -, rfl⟩ := resolve_eq_ok_iff.mp resolved
  rfl

namespace PlanFile

/-- **What a plan and its requests are made of.** -/
structure Parts (file : PlanFile) (environment : Environment) (resolved : ResolvedPlan) :
    Prop where
  stages : List.Forall₂
    (fun spec stage => spec.duration.toDuration = .ok stage.duration ∧ spec.target = stage.target)
    file.stages resolved.plan.schedule.stages
  /-- The thresholds of every metric are among those of the plan. -/
  thresholds : ∀ entry ∈ file.thresholds.toList, ∀ spec ∈ entry.2,
    ∃ threshold ∈ resolved.plan.thresholds, spec.resolve entry.1 = .ok threshold
  sleep : resolveOption SleepSpec.resolve file.sleep = .ok resolved.plan.sleep
  tick : resolveDuration file.tick (Plan.named "").tick = .ok resolved.plan.tick
  gracefulStop : resolveDuration file.gracefulStop (Plan.named "").gracefulStop =
    .ok resolved.plan.gracefulStop
  timeout : resolveDuration file.timeout (Plan.named "").timeout = .ok resolved.plan.timeout
  thresholdInterval : resolveDuration file.thresholdInterval (Plan.named "").thresholdInterval =
    .ok resolved.plan.thresholdInterval
  requests : ∀ step ∈ file.requests, ∃ place result, step.resolve environment place = .ok result
  valid : resolved.plan.validate = .ok resolved.plan

variable {file : PlanFile} {environment : Environment} {resolved : ResolvedPlan}

theorem stages_of_mapM {specs : List StageSpec} {stages : List Stage}
    (made : (specs.mapM fun stage => do
      return (⟨← stage.duration.resolve, stage.target⟩ : Stage)) = .ok stages) :
    List.Forall₂
      (fun spec stage => spec.duration.toDuration = .ok stage.duration ∧ spec.target = stage.target)
      specs stages := by
  refine (forall₂_of_mapM made).imp fun spec stage own => ?_
  obtain ⟨span, read, own⟩ := ok_of_bind own
  obtain rfl := Except.ok.inj own
  exact ⟨DurationSpec.toDuration_of_resolve read, rfl⟩

theorem parts_resolved (accepted : file.resolve environment = .ok resolved) :
    file.Parts environment resolved := by
  have valid := (parts_of_resolve accepted).1
  unfold PlanFile.resolve at accepted
  dsimp only at accepted
  obtain ⟨stages, written, accepted⟩ := ok_of_bind accepted
  obtain ⟨thresholds, judged, accepted⟩ := ok_of_bind accepted
  obtain ⟨baseUrl, -, accepted⟩ := ok_of_bind accepted
  obtain ⟨headers, -, accepted⟩ := ok_of_bind accepted
  obtain ⟨sleep, slept, accepted⟩ := ok_of_bind accepted
  obtain ⟨tick, ticked, accepted⟩ := ok_of_bind accepted
  obtain ⟨gracefulStop, stopped, accepted⟩ := ok_of_bind accepted
  obtain ⟨timeout, timed, accepted⟩ := ok_of_bind accepted
  obtain ⟨thresholdInterval, looked, accepted⟩ := ok_of_bind accepted
  obtain ⟨requests, made, accepted⟩ := ok_of_bind accepted
  obtain ⟨plan, checked, accepted⟩ := ok_of_bind accepted
  obtain rfl : ⟨plan, requests⟩ = resolved := Except.ok.inj accepted
  obtain ⟨rfl, -⟩ := Plan.checked_of_validate checked
  refine ⟨stages_of_mapM written, fun entry member spec inside => ?_, slept, ticked, stopped,
    timed, looked, fun step member => ?_, valid⟩
  · obtain ⟨group, inside', made⟩ := exists_of_mem_left (forall₂_of_mapM judged) member
    obtain ⟨threshold, among, own⟩ := exists_of_mem_left (forall₂_of_mapM made) inside
    exact ⟨threshold, List.mem_flatten.2 ⟨group, inside', among⟩, own⟩
  · obtain ⟨place, here⟩ := List.mem_iff_getElem?.1 member
    obtain ⟨result, -, own⟩ := exists_of_mem_left (forall₂_of_mapM made)
      (List.mem_zipIdx_iff_getElem?.2 here : (step, place) ∈ _)
    exact ⟨place, result, own⟩

theorem mapM_withoutIdleDelays {γ : Type} (file : PlanFile)
    {read : String × List ThresholdSpec → Except PlanFault γ}
    (blind : ∀ metric specs,
      read (metric, specs.map ThresholdSpec.withoutIdleDelay) = read (metric, specs)) :
    file.withoutIdleDelays.thresholds.toList.mapM read = file.thresholds.toList.mapM read := by
  change (file.thresholds.entries.map fun entry =>
    (entry.1, entry.2.map ThresholdSpec.withoutIdleDelay)).mapM read = _
  rw [List.mapM_map]
  congr 1
  funext entry
  exact blind entry.1 entry.2

/-- **What is not read makes no difference.** -/
theorem resolve_withoutIdleDelays (file : PlanFile) (environment : Environment) :
    file.withoutIdleDelays.resolve environment = file.resolve environment := by
  unfold PlanFile.resolve
  rw [mapM_withoutIdleDelays file fun metric specs => ?_]
  · rfl
  · show (specs.map ThresholdSpec.withoutIdleDelay).mapM (ThresholdSpec.resolve metric) = _
    rw [List.mapM_map]
    congr 1
    funext spec
    exact spec.resolve_withoutIdleDelay metric

/-! ### What is bounded -/

theorem bounded_of_resolveDuration {setting : Option DurationSpec} {default value : Duration}
    {spec : DurationSpec} (given : some spec = setting)
    (read : resolveDuration setting default = .ok value) (short : value ≤ longestSupported) :
    spec.Bounded := by
  subst given
  exact ⟨value, DurationSpec.toDuration_of_resolve read, short⟩

section Bounds

variable (parts : file.Parts environment resolved)
include parts

/-- The exact sum of the stages is bounded. -/
theorem Parts.spanOf_le :
    Schedule.spanOf resolved.plan.schedule.stages ≤ longestSupported.nanos := by
  have checked := (Plan.checked_of_validate parts.valid).2
  rw [← Schedule.nanos_total_of_fits (Plan.fits_of_checked checked)]
  exact Plan.total_le checked

theorem Parts.bounded_stage {spec : StageSpec} (member : spec ∈ file.stages) :
    spec.duration.Bounded := by
  obtain ⟨stage, inside, read, -⟩ := exists_of_mem_left parts.stages member
  refine ⟨stage.duration, read, le_trans ?_ parts.spanOf_le⟩
  exact List.single_le_sum (fun _ _ => Nat.zero_le _) _ (List.mem_map_of_mem inside)

theorem Parts.bounded_sleep {sleep : SleepSpec} (given : sleep ∈ file.sleep) {spec : DurationSpec}
    (member : spec ∈ sleep.durations) : spec.Bounded := by
  have pause := (Plan.checked_of_validate parts.valid).2.pause
  have read := parts.sleep
  rw [Option.mem_def.1 given] at read
  obtain ⟨policy, made, own⟩ := resolveOption_some read
  rw [own] at pause
  cases sleep with
  | fixed span =>
    obtain rfl := List.mem_singleton.1 member
    obtain ⟨length, read, rfl⟩ := ok_of_map made
    exact ⟨length, DurationSpec.toDuration_of_resolve read, Plan.le_of_checkLength pause⟩
  | range least most =>
    obtain ⟨low, readLow, made⟩ := ok_of_bind made
    obtain ⟨high, readHigh, made⟩ := ok_of_bind made
    obtain rfl := Except.ok.inj made
    obtain ⟨order, short⟩ := Plan.le_of_checkSleep pause
    rcases List.mem_pair.1 member with rfl | rfl
    · exact ⟨low, DurationSpec.toDuration_of_resolve readLow, Nat.le_trans order short⟩
    · exact ⟨high, DurationSpec.toDuration_of_resolve readHigh, short⟩

theorem Parts.bounded_setting {spec : DurationSpec}
    (member : spec ∈ [file.tick, file.gracefulStop, file.timeout, file.thresholdInterval].filterMap id) :
    spec.Bounded := by
  have lengths := (Plan.checked_of_validate parts.valid).2.lengths
  simp only [Plan.namedDurations, List.cons_append, List.forall_mem_cons] at lengths
  obtain ⟨-, tick, gracefulStop, timeout, thresholdInterval, -⟩ := lengths
  obtain ⟨setting, inside, own⟩ := List.mem_filterMap.1 member
  obtain rfl : setting = some spec := own
  simp only [List.mem_cons, List.not_mem_nil, or_false] at inside
  rcases inside with given | given | given | given
  · exact bounded_of_resolveDuration given parts.tick tick
  · exact bounded_of_resolveDuration given parts.gracefulStop gracefulStop
  · exact bounded_of_resolveDuration given parts.timeout timeout
  · exact bounded_of_resolveDuration given parts.thresholdInterval thresholdInterval

theorem Parts.bounded_delay {spec : DurationSpec}
    (member : spec ∈ (file.thresholdSpecs.filter ThresholdSpec.mayStop).filterMap
      ThresholdSpec.delay?) : spec.Bounded := by
  have lengths := (Plan.checked_of_validate parts.valid).2.lengths
  obtain ⟨declared, inside, delay⟩ := List.mem_filterMap.1 member
  obtain ⟨among, stops⟩ := List.mem_filter.1 inside
  obtain ⟨entry, listed, own⟩ := List.mem_flatMap.1 among
  obtain ⟨threshold, planned, made⟩ := parts.thresholds entry listed declared own
  obtain ⟨span, read, abort⟩ := ThresholdSpec.delay_of_resolve made stops delay
  refine ⟨span, read, lengths ("delayAbortEval", span) (List.mem_append_right _ ?_)⟩
  refine List.mem_filterMap.2 ⟨threshold, planned, ?_⟩
  rw [abort]
  rfl

/-- **Every duration that a plan is made of is read and bounded.** -/
theorem Parts.bounded_planned {spec : DurationSpec} (member : spec ∈ file.plannedDurations) :
    spec.Bounded := by
  simp only [plannedDurations, List.mem_append] at member
  rcases member with ((stage | pause) | setting) | delay
  · obtain ⟨declared, inside, rfl⟩ := List.mem_map.1 stage
    exact parts.bounded_stage inside
  · obtain ⟨sleep, given, own⟩ := List.mem_flatMap.1 pause
    exact parts.bounded_sleep (Option.mem_toList.1 given) own
  · exact parts.bounded_setting setting
  · exact parts.bounded_delay delay

/-- The longest time of a response is read, and that is all. -/
theorem Parts.exists_limit {spec : DurationSpec} (member : spec ∈ file.responseLimits) :
    ∃ span, spec.toDuration = .ok span := by
  obtain ⟨step, listed, own⟩ := List.mem_flatMap.1 member
  obtain ⟨check, inside, given⟩ := List.mem_filterMap.1 own
  obtain ⟨place, result, made⟩ := parts.requests step listed
  rw [← RequestStep.checks_of_resolve made] at inside
  obtain ⟨longest, read⟩ := (RequestStep.accepted_of_resolve made).checks check inside
  rw [given] at read
  obtain ⟨length, own, -⟩ := resolveOption_some read
  exact ⟨length, DurationSpec.toDuration_of_resolve own⟩

end Bounds

/-! ### The durations of a file that is resolved -/

/-- What is known of the durations of a plan file. -/
structure Timed (file : PlanFile) (environment : Environment) (resolved : ResolvedPlan) :
    Prop where
  /-- What the plan is made of is read and bounded. -/
  planned : ∀ spec ∈ file.plannedDurations, spec.Bounded
  /-- The stages are those of the plan, each of the duration that is read. -/
  stages : List.Forall₂ (fun spec stage => spec.duration.toDuration = .ok stage.duration)
    file.stages resolved.plan.schedule.stages
  /-- Their sum is bounded, without being cut. -/
  total : (resolved.plan.schedule.stages.map fun stage => stage.duration.nanos).sum ≤
    longestSupported.nanos
  /-- The longest times of responses are read; they may be of any length. -/
  limits : ∀ spec ∈ file.responseLimits, ∃ span, spec.toDuration = .ok span
  /-- The other delays are not looked at. -/
  idle : file.withoutIdleDelays.resolve environment = .ok resolved

/-- **The durations of a plan file that is resolved** are read and bounded where the plan is made
of them, and read where responses are checked. -/
theorem timed_of_resolve (accepted : file.resolve environment = .ok resolved) :
    file.Timed environment resolved where
  planned _ member := (parts_resolved accepted).bounded_planned member
  stages := (parts_resolved accepted).stages.imp fun _ _ own => own.1
  total := (parts_resolved accepted).spanOf_le
  limits _ member := (parts_resolved accepted).exists_limit member
  idle := (resolve_withoutIdleDelays file environment).trans accepted

/-- A plan file with a pause, a threshold that may stop the run and a checked response. -/
theorem timed_pause :
    let file : PlanFile :=
      { name := some "pause", stages := [⟨.text "30s", 5⟩, ⟨.text "1m30s", 0⟩], startUsers := some 1
        thresholds := .ofList
          [("checks", [.detailed "rate>0.9" true (some (.text "10s")), .expression "rate>0.5"])]
        baseUrl := none, headers := .empty, sleep := some (.range (.text "1s") (.text "2s"))
        maxUsers := some 5, tick := some (.text "50ms"), gracefulStop := none
        timeout := some (.text "5s"), thresholdInterval := none, tags := .empty
        requests := [
          { method := "get", url := "/", name := none, headers := .empty, json := none, body := none
            checks := [⟨"quick", some 200, none, none, some (.text "1s")⟩], captures := [] }] }
    ∃ resolved, file.resolve (fun _ => none) = .ok resolved ∧ file.Timed (fun _ => none) resolved ∧
      file.durations.length = 8 := by
  intro file
  have accepted : (file.resolve fun _ => none).toOption.isSome = true := by decide +kernel
  cases result : file.resolve fun _ => none with
  | error fault =>
    rw [result] at accepted
    contradiction
  | ok resolved => exact ⟨resolved, rfl, timed_of_resolve result, by decide +kernel⟩

/-- A response may be given twenty years, though no duration of a plan may be that long. -/
theorem bounded_of_resolve_fails :
    ¬ ∀ (file : PlanFile) (environment : Environment) (resolved : ResolvedPlan),
      file.resolve environment = .ok resolved → ∀ spec ∈ file.durations, spec.Bounded := by
  intro bounded
  let file : PlanFile :=
    { name := some "limit", stages := [⟨.text "1s", 1⟩], startUsers := none, thresholds := .empty
      baseUrl := none, headers := .empty, sleep := none, maxUsers := none, tick := none
      gracefulStop := none, timeout := none, thresholdInterval := none, tags := .empty
      requests := [
        { method := "GET", url := "/", name := none, headers := .empty, json := none, body := none
          checks := [⟨"slow", none, none, none, some (.text "20years")⟩], captures := [] }] }
  have accepted : (file.resolve fun _ => none).toOption.isSome = true := by decide +kernel
  cases result : file.resolve fun _ => none with
  | error fault =>
    rw [result] at accepted
    contradiction
  | ok resolved =>
    have limit : DurationSpec.text "20years" ∈ file.durations :=
      List.mem_append_left _ (List.mem_append_right _ List.mem_cons_self)
    obtain ⟨span, read, short⟩ := bounded file _ resolved result _ limit
    have long : (Duration.parse "20years").toOption.any (fun span => longestSupported < span) =
        true := by
      decide +kernel
    change Duration.parse "20years" = .ok span at read
    rw [read] at long
    exact absurd short (Nat.not_le_of_lt (of_decide_eq_true long))

end PlanFile

end LoadTest
