/-
**One step of an iteration.**

A step that is reached is visited. What is done there depends on the variables that are known, on
what the recorder takes and on what the server answers, and on nothing else.

* `Visit`: a step with what was done there and what became of its request;
* `Visit.Happened`: the five things that can happen at a visit;
* `Visit.Begins`, `ScriptStep.begins`: what an iteration does at a step is one of them;
* `Visit.Happened.sent_iff`, `Visit.Happened.labelled`: when a step is sent, and the name that its
  samples carry.
-/

import LoadTest.Proofs.Recorder.Taken
import LoadTest.Proofs.Run.Played
import LoadTest.Proofs.Script.Prepare
import LoadTest.Proofs.Script.Response

namespace LoadTest

/-! ### Visits -/

/-- The texts of a request in which variables are filled in; of two bodies the JSON counts. -/
def RequestStep.texts (step : RequestStep) : List String :=
  step.headers.toList.map Prod.snd ++
    (((ScriptStep.bodyOf step).map StepBody.texts).getD [] ++ [step.url])

/-- **The variables that a request asks for.** -/
def RequestStep.names (step : RequestStep) : List String := step.texts.flatMap Variables.names

/-- What a request is called in metrics: its name, or its URL as it is written. -/
def RequestStep.label (step : RequestStep) : String := step.name.getD step.url

/-- A request is the step with its variables filled in. -/
def RequestStep.Asks (step : RequestStep) (known : Variables) (request : Request) : Prop :=
  known.Knows step.names ∧ ∃ made, ScriptStep.ofRequest step = .ok made ∧
    made.prepare known = some request

/-- **A visit to a step**: what was done there, and what became of the request, if it was sent. -/
structure Visit where
  step : RequestStep
  deeds : List Deed
  result : Option (Except IterationFault Response)

namespace Visit

/-- The samples that were recorded. -/
def samples (visit : Visit) : List (Sample Float) := visit.deeds.filterMap Deed.sample?

/-- The requests that were sent. -/
def requests (visit : Visit) : List Outgoing := visit.deeds.filterMap Deed.request?

/-- The fault, if the step failed. -/
def fault? (visit : Visit) : Option IterationFault :=
  match visit.result with
  | some (.error fault) => some fault
  | _ => none

/-- The captures that were made. -/
def attempts (draws : Nat → Nat) (visit : Visit) : List (String × Option String) :=
  match visit.result with
  | some (.ok response) => captured draws response visit.step.captures
  | _ => []

end Visit

/-- **The captures that were made at visits**, in their order. Each step has its own draws. -/
def attempts (draws : Nat → Nat) : List Visit → List (String × Option String)
  | [] => []
  | visit :: rest =>
    visit.attempts draws ++ attempts (fun place => draws (place + visit.step.captures.length)) rest

/-- What happens where steps are visited. -/
structure Site where
  client : Client
  server : List Outgoing → Reply
  tags : Tags
  clock : Duration

namespace Visit

/-- A sample is recorded. -/
def record (site : Site) (sample : Sample Float) : Deed :=
  .recorded (sample.stamp site.tags site.clock)

/-- **What happens at a visit**, with the variables that are known, the recorder and the requests
sent so far. -/
inductive Happened (site : Site) (known : Variables) (recorder : Recorder Float)
    (sent : List Outgoing) : Visit → Prop
  /-- A variable is unknown, and nothing is done. -/
  | skipped {step : RequestStep} (unknown : ¬ known.Knows step.names) :
    Happened site known recorder sent ⟨step, [], none⟩
  /-- The request has an unusable URL or header. -/
  | unusable {step : RequestStep} {request : Request} {fault : RequestFault}
      (asks : step.Asks known request) (unusable : site.client.prepare request = .error fault) :
    Happened site known recorder sent
      ⟨step, [.named request.step], some (.error (.request fault))⟩
  /-- A sample about the reply is refused. -/
  | refused {step : RequestStep} {request : Request} {outgoing : Outgoing} {reply : Reply}
      {taken rest : List (Sample Float)} {sample : Sample Float} {fault : RecordFault}
      (asks : step.Asks known request) (usable : site.client.prepare request = .ok outgoing)
      (replied : site.server (outgoing :: sent) = reply)
      (split : request.samples reply = taken ++ sample :: rest)
      (accepted : recorder.takesAll (taken.map (Sample.stamp site.tags site.clock)) = true)
      (refused : ((recorder.recordAll (taken.map (Sample.stamp site.tags site.clock))).record
        (sample.stamp site.tags site.clock)).2 = some fault) :
    Happened site known recorder sent
      ⟨step, .named request.step :: .sent outgoing reply :: (taken ++ [sample]).map (record site),
        some (.error (.record fault))⟩
  /-- The connection is lost. -/
  | lost {step : RequestStep} {request : Request} {outgoing : Outgoing} {took : Duration}
      (asks : step.Asks known request) (usable : site.client.prepare request = .ok outgoing)
      (replied : site.server (outgoing :: sent) = .lost took)
      (accepted : recorder.takesAll
        ((request.samples (.lost took)).map (Sample.stamp site.tags site.clock)) = true) :
    Happened site known recorder sent
      ⟨step, .named request.step :: .sent outgoing (.lost took) ::
        (request.samples (.lost took)).map (record site), some (.error (.transport request.step))⟩
  /-- A response comes, and the outcome of each check is recorded. -/
  | answered {step : RequestStep} {request : Request} {outgoing : Outgoing} {status : Nat}
      {headers : List (String × String)} {body : List UInt8} {took : Duration}
      {outcomes : List Bool}
      (asks : step.Asks known request) (usable : site.client.prepare request = .ok outgoing)
      (replied : site.server (outgoing :: sent) = .response status headers body took)
      (accepted : recorder.takesAll ((request.samples (.response status headers body took)).map
        (Sample.stamp site.tags site.clock)) = true)
      (checked : List.Forall₂ (fun (check : CheckSpec) passed =>
        passed = true ↔ check.Holds ⟨request.step, status, headers, body, took⟩)
        step.checks outcomes) :
    Happened site known recorder sent
      ⟨step, .named request.step :: .sent outgoing (.response status headers body took) ::
        ((request.samples (.response status headers body took)).map (record site) ++
          (List.zipWith Sample.ofCheck step.checks outcomes).map (record site)),
        some (.ok ⟨request.step, status, headers, body, took⟩)⟩

end Visit

/-! ### Playing what a visit does -/

section Play

variable (site : Site)

/-- What an activity does where steps are visited. -/
def Activity.playAt (activity : Activity) (recorder : Recorder Float) (sent : List Outgoing) :
    List Deed × Option IterationFault :=
  activity.play site.server site.tags site.clock recorder sent

theorem samples_record (samples : List (Sample Float)) :
    (samples.map (Visit.record site)).filterMap Deed.sample? =
      samples.map (Sample.stamp site.tags site.clock) := by
  rw [List.filterMap_map]
  exact congrFun List.filterMap_eq_map samples

theorem requests_record (samples : List (Sample Float)) :
    (samples.map (Visit.record site)).filterMap Deed.request? = [] := by
  rw [List.filterMap_map]
  exact List.filterMap_eq_nil_iff.mpr fun sample _ => rfl

/-- What an answered step adds to the recorder and to the requests. -/
theorem answered_frame (name : String) (outgoing : Outgoing) (reply : Reply)
    (first second : List (Sample Float)) :
    let deeds := .named name :: .sent outgoing reply ::
      (first.map (Visit.record site) ++ second.map (Visit.record site))
    deeds.filterMap Deed.sample? = first.map (Sample.stamp site.tags site.clock) ++
        second.map (Sample.stamp site.tags site.clock) ∧
      deeds.filterMap Deed.request? = [outgoing] := by
  constructor
  · show List.filterMap Deed.sample? (_ ++ _) = _
    rw [List.filterMap_append, samples_record, samples_record]
  · show outgoing :: List.filterMap Deed.request? (_ ++ _) = _
    rw [List.filterMap_append, requests_record, requests_record]
    rfl

theorem Activity.playAt_emit (sample : Sample Float) (next : Option RecordFault → Activity)
    (recorder : Recorder Float) (sent : List Outgoing) :
    let result := recorder.record (sample.stamp site.tags site.clock)
    let rest := (next result.2).playAt site result.1 sent
    (emit sample next).playAt site recorder sent =
      (Visit.record site sample :: rest.1, rest.2) := rfl

/-- Samples that are taken are recorded, and the others come after them. -/
theorem Activity.playAt_emitAll {taken : List (Sample Float)} {recorder : Recorder Float}
    (accepted : recorder.takesAll (taken.map (Sample.stamp site.tags site.clock)) = true)
    (later : List (Sample Float)) (next : Option RecordFault → Activity) (sent : List Outgoing) :
    let rest := (emitAll later next).playAt site
      (recorder.recordAll (taken.map (Sample.stamp site.tags site.clock))) sent
    (emitAll (taken ++ later) next).playAt site recorder sent =
      (taken.map (Visit.record site) ++ rest.1, rest.2) := by
  induction taken generalizing recorder with
  | nil => rfl
  | cons sample taken ih =>
    rw [List.map_cons, Recorder.takesAll, Bool.and_eq_true_iff, Option.isNone_iff_eq_none]
      at accepted
    obtain ⟨silent, accepted⟩ := accepted
    rw [List.cons_append, emitAll, playAt_emit, silent]
    dsimp only at ih ⊢
    rw [ih accepted]
    rfl

theorem Activity.playAt_ask_unusable {request : Request} {fault : RequestFault}
    (unusable : site.client.prepare request = .error fault)
    (next : Except IterationFault Response → Activity) (recorder : Recorder Float)
    (sent : List Outgoing) :
    let rest := (next (.error (.request fault))).playAt site recorder sent
    (ask site.client request next).playAt site recorder sent =
      (.named request.step :: rest.1, rest.2) := by
  unfold ask
  rw [unusable]
  rfl

section Ask

variable {request : Request} {outgoing : Outgoing} {reply : Reply} {recorder : Recorder Float}
  {sent : List Outgoing} (usable : site.client.prepare request = .ok outgoing)
  (replied : site.server (outgoing :: sent) = reply)

include usable replied

theorem Activity.playAt_ask_taken
    (accepted : recorder.takesAll
      ((request.samples reply).map (Sample.stamp site.tags site.clock)) = true)
    (next : Except IterationFault Response → Activity) :
    let rest := (next (outcomeOf request reply none)).playAt site
      (recorder.recordAll ((request.samples reply).map (Sample.stamp site.tags site.clock)))
      (outgoing :: sent)
    (ask site.client request next).playAt site recorder sent =
      (.named request.step :: .sent outgoing reply ::
        ((request.samples reply).map (Visit.record site) ++ rest.1), rest.2) := by
  have recorded := playAt_emitAll site accepted []
    (fun fault => next (outcomeOf request reply fault)) (outgoing :: sent)
  rw [List.append_nil] at recorded
  subst replied
  unfold ask
  rw [usable]
  exact congrArg (fun rest => (Deed.named request.step :: Deed.sent outgoing _ :: rest.1, rest.2))
    recorded

theorem Activity.playAt_ask_refused {taken later : List (Sample Float)} {sample : Sample Float}
    {fault : RecordFault} (split : request.samples reply = taken ++ sample :: later)
    (accepted : recorder.takesAll (taken.map (Sample.stamp site.tags site.clock)) = true)
    (refused : ((recorder.recordAll (taken.map (Sample.stamp site.tags site.clock))).record
      (sample.stamp site.tags site.clock)).2 = some fault)
    (next : Except IterationFault Response → Activity)
    (stops : next (.error (.record fault)) = .finish (some (.record fault))) :
    (ask site.client request next).playAt site recorder sent =
      (.named request.step :: .sent outgoing reply :: (taken ++ [sample]).map (Visit.record site),
        some (.record fault)) := by
  have recorded := playAt_emitAll site accepted (sample :: later)
    (fun fault => next (outcomeOf request reply fault)) (outgoing :: sent)
  rw [emitAll, playAt_emit, refused, ← split] at recorded
  dsimp only [outcomeOf] at recorded
  rw [stops] at recorded
  subst replied
  unfold ask
  rw [usable, List.map_append]
  exact congrArg (fun rest => (Deed.named request.step :: Deed.sent outgoing _ :: rest.1, rest.2))
    recorded

end Ask

/-- The outcomes of checks are all recorded, whatever becomes of them. -/
theorem ResponseCheck.play_record (response : Response) (checks : List ResponseCheck)
    (next : Activity) (recorder : Recorder Float) (sent : List Outgoing) :
    let samples := checks.map fun check =>
      (Sample.rate BuiltIn.checks (check.holds response)).tag "check" check.name
    let rest := next.playAt site
      (recorder.recordAll (samples.map (Sample.stamp site.tags site.clock))) sent
    (record response checks next).playAt site recorder sent =
      (samples.map (Visit.record site) ++ rest.1, rest.2) := by
  induction checks generalizing recorder with
  | nil => rfl
  | cons check rest ih =>
    show (Activity.emit _ fun _ => record response rest next).playAt site recorder sent = _
    rw [Activity.playAt_emit]
    dsimp only at ih ⊢
    rw [ih]
    rfl

end Play

/-! ### One step -/

namespace Visit

variable {visit : Visit} {site : Site} {draws : Nat → Nat} {known : Variables}
  {recorder : Recorder Float} {sent : List Outgoing} {activity : Activity}
  {others : Variables → Activity}

/-- **An activity begins with a visit**: it does what is done there, ends if the visit failed, and
else goes on with the variables that are known afterwards. -/
structure Begins (visit : Visit) (site : Site) (draws : Nat → Nat) (known : Variables)
    (recorder : Recorder Float) (sent : List Outgoing) (activity : Activity)
    (others : Variables → Activity) : Prop where
  happened : visit.Happened site known recorder sent
  fails : ∀ fault, visit.fault? = some fault →
    activity.playAt site recorder sent = (visit.deeds, some fault)
  goesOn : visit.fault? = none → ∃ now : Variables,
    (∀ name, now.get? name = (latest (visit.attempts draws) name).or (known.get? name)) ∧
    let rest := (others now).playAt site (recorder.recordAll visit.samples)
      (visit.requests.reverse ++ sent)
    activity.playAt site recorder sent = (visit.deeds ++ rest.1, rest.2)

theorem Begins.of_fault {fault : IterationFault}
    (happened : visit.Happened site known recorder sent) (failed : visit.fault? = some fault)
    (ends : activity.playAt site recorder sent = (visit.deeds, some fault)) :
    visit.Begins site draws known recorder sent activity others where
  happened := happened
  fails other same := by
    obtain rfl : fault = other := Option.some.inj (failed.symm.trans same)
    exact ends
  goesOn silent := by
    rw [failed] at silent
    contradiction

end Visit

namespace ScriptStep

variable {declared : RequestStep} {step : ScriptStep} {known : Variables}

theorem names_ofRequest (made : ofRequest declared = .ok step) : step.names = declared.names := by
  obtain ⟨checks, -, rfl⟩ := ofRequest_eq_ok made
  rfl

theorem captures_ofRequest (made : ofRequest declared = .ok step) :
    step.captures = declared.captures := by
  obtain ⟨checks, -, rfl⟩ := ofRequest_eq_ok made
  rfl

theorem label_of_prepare {request : Request} (made : ofRequest declared = .ok step)
    (ready : step.prepare known = some request) : request.label = declared.label := by
  obtain ⟨checks, -, rfl⟩ := ofRequest_eq_ok made
  obtain ⟨headers, body, url, -, -, -, rfl⟩ := prepare_eq_some ready
  match body with
  | none => rfl
  | some (.json value) => rfl
  | some (.text value) => rfl

/-- How an iteration goes on after a step that was sent. -/
def goOn (client : Client) (draws : Nat → Nat) (step : ScriptStep) (rest : List ScriptStep)
    (known : Variables) : Except IterationFault Response → Activity
  | .error fault => .finish (some fault)
  | .ok response =>
    ResponseCheck.record response step.checks <|
      iterate client (fun place => draws (place + step.captures.length)) rest
        (Variables.capture draws response step.captures known)

theorem iterate_skipped (client : Client) (draws : Nat → Nat) (rest : List ScriptStep)
    (unready : step.prepare known = none) : iterate client draws (step :: rest) known =
      iterate client (fun place => draws (place + step.captures.length)) rest known := by
  rw [iterate, unready]

theorem iterate_asked (client : Client) (draws : Nat → Nat) (rest : List ScriptStep)
    {request : Request} (ready : step.prepare known = some request) :
    iterate client draws (step :: rest) known =
      .ask client request (goOn client draws step rest known) := by
  rw [iterate, ready]
  refine congrArg (Activity.ask client request) (funext fun outcome => ?_)
  cases outcome with
  | error fault => rfl
  | ok response => rfl

section Asked

variable {site : Site} {draws : Nat → Nat} {rest : List ScriptStep} {recorder : Recorder Float}
  {sent : List Outgoing} {request : Request} {outgoing : Outgoing} {others : Variables → Activity}
  (asks : declared.Asks known request) (usable : site.client.prepare request = .ok outgoing)

include asks usable

theorem begins_lost {took : Duration} (replied : site.server (outgoing :: sent) = .lost took)
    (accepted : recorder.takesAll
      ((request.samples (.lost took)).map (Sample.stamp site.tags site.clock)) = true) :
    ∃ visit : Visit, visit.step = declared ∧ visit.Begins site draws known recorder sent
      (.ask site.client request (goOn site.client draws step rest known)) others := by
  refine ⟨_, rfl, .of_fault (.lost asks usable replied accepted) rfl ?_⟩
  rw [Activity.playAt_ask_taken site usable replied accepted]
  show (_ :: _ :: (_ ++ []), _) = _
  rw [List.append_nil]
  rfl

theorem begins_refused {reply : Reply} (replied : site.server (outgoing :: sent) = reply)
    (notAll : recorder.takesAll
      ((request.samples reply).map (Sample.stamp site.tags site.clock)) = false) :
    ∃ visit : Visit, visit.step = declared ∧ visit.Begins site draws known recorder sent
      (.ask site.client request (goOn site.client draws step rest known)) others := by
  -- The recorder sees stamped samples; those of the request are split in the same place.
  obtain ⟨before, stamped, after, fault, splits, accepted, refused⟩ :=
    Recorder.exists_refused notAll
  obtain ⟨taken, tail, split, rfl, others⟩ := List.map_eq_append_iff.mp splits
  obtain ⟨sample, later, rfl, rfl, -⟩ := List.map_eq_cons_iff.mp others
  exact ⟨_, rfl, .of_fault (.refused asks usable replied split accepted refused) rfl
    (Activity.playAt_ask_refused site usable replied split accepted refused _ rfl)⟩

/-- After a response come the checks of the step, and then the steps after it. -/
theorem begins_answered (made : ofRequest declared = .ok step) {status : Nat}
    {headers : List (String × String)} {body : List UInt8} {took : Duration}
    (replied : site.server (outgoing :: sent) = .response status headers body took)
    (accepted : recorder.takesAll ((request.samples (.response status headers body took)).map
      (Sample.stamp site.tags site.clock)) = true) :
    ∃ visit : Visit, visit.step = declared ∧ visit.Begins site draws known recorder sent
      (.ask site.client request (goOn site.client draws step rest known))
      (iterate site.client (fun place => draws (place + declared.captures.length)) rest) := by
  obtain ⟨checks, areChecks, rfl⟩ := ofRequest_eq_ok made
  obtain ⟨checked, samples⟩ := ResponseCheck.outcomes (forall₂_of_mapM areChecks)
    ⟨request.step, status, headers, body, took⟩
  refine ⟨_, rfl, .answered asks usable replied accepted checked,
    fun other same => by contradiction, fun _ => ⟨Variables.capture draws
      ⟨request.step, status, headers, body, took⟩ declared.captures known,
        fun name => Variables.get?_capture .., ?_⟩⟩
  obtain ⟨own, asked⟩ := answered_frame site request.step outgoing
    (.response status headers body took) (request.samples (.response status headers body took))
    (List.zipWith Sample.ofCheck declared.checks (checks.map fun check =>
      check.holds ⟨request.step, status, headers, body, took⟩))
  unfold Visit.samples Visit.requests
  dsimp only at own asked ⊢
  rw [Activity.playAt_ask_taken site usable replied accepted, own, asked]
  dsimp only [Activity.outcomeOf, goOn]
  rw [ResponseCheck.play_record, samples]
  unfold Recorder.recordAll
  rw [List.foldl_append, List.cons_append, List.cons_append, List.append_assoc]
  rfl

end Asked

/-- **What an iteration does at one step**, and how it goes on from there. -/
theorem begins (site : Site) (made : ofRequest declared = .ok step) (draws : Nat → Nat)
    (rest : List ScriptStep) (known : Variables) (recorder : Recorder Float)
    (sent : List Outgoing) :
    ∃ visit : Visit, visit.step = declared ∧ visit.Begins site draws known recorder sent
      (iterate site.client draws (step :: rest) known)
      (iterate site.client (fun place => draws (place + declared.captures.length)) rest) := by
  cases ready : step.prepare known with
  | none =>
    have unknown : ¬ known.Knows declared.names := by
      rw [← names_ofRequest made, ← prepare_iff, ready]
      exact fun ⟨_, same⟩ => by contradiction
    refine ⟨⟨declared, [], none⟩, rfl, .skipped unknown, fun fault same => by contradiction,
      fun _ => ⟨known, fun name => Option.none_or.symm, ?_⟩⟩
    rw [iterate_skipped site.client draws rest ready, captures_ofRequest made]
    rfl
  | some request =>
    have asks : declared.Asks known request := by
      refine ⟨?_, step, made, ready⟩
      rw [← names_ofRequest made]
      exact prepare_iff.mp ⟨request, ready⟩
    rw [iterate_asked site.client draws rest ready]
    cases usable : site.client.prepare request with
    | error fault =>
      exact ⟨_, rfl, .of_fault (.unusable asks usable) rfl
        (Activity.playAt_ask_unusable site usable _ recorder sent)⟩
    | ok outgoing =>
      obtain ⟨reply, replied⟩ : ∃ reply, site.server (outgoing :: sent) = reply := ⟨_, rfl⟩
      cases accepted : recorder.takesAll
          ((request.samples reply).map (Sample.stamp site.tags site.clock)) with
      | false => exact begins_refused asks usable replied accepted
      | true =>
        cases reply with
        | lost took => exact begins_lost asks usable replied accepted
        | response status headers body took =>
          exact begins_answered asks usable made replied accepted

end ScriptStep

/-! ### Sent steps and labels -/

/-- Samples about a reply carry the name of their request, whatever the plan tags them with. -/
theorem Request.name_of_samples {request : Request} {reply : Reply} {sample : Sample Float}
    (member : sample ∈ request.samples reply) (tags : Tags) (clock : Duration) :
    (sample.stamp tags clock).tags.get? "name" = some request.label := by
  obtain ⟨plain, -, rfl⟩ := List.mem_map.mp member
  unfold Sample.stamp
  rw [Sample.get?_withTags]
  have own : (request.tagged reply plain).tags.get? "name" = some request.label := by
    unfold tagged Sample.tag
    rw [Table.get?_insert, if_neg (by decide), Table.get?_insert, if_pos rfl]
  show ((request.tagged reply plain).tags.get? "name").or _ = _
  rw [own, Option.some_or]

namespace Visit

variable {site : Site} {known : Variables} {recorder : Recorder Float} {sent : List Outgoing}
  {visit : Visit}

/-- **A step is sent if and only if its variables are known**; otherwise nothing is done. -/
theorem Happened.sent_iff (happened : visit.Happened site known recorder sent) :
    (visit.result.isSome = true ↔ known.Knows visit.step.names) ∧
      (visit.result = none → visit.deeds = []) := by
  cases happened with
  | skipped unknown =>
    exact ⟨⟨fun same => by contradiction, fun all => absurd all unknown⟩, fun _ => rfl⟩
  | unusable asks _ => exact ⟨⟨fun _ => asks.1, fun _ => rfl⟩, fun same => by contradiction⟩
  | refused asks _ _ _ _ _ => exact ⟨⟨fun _ => asks.1, fun _ => rfl⟩, fun same => by contradiction⟩
  | lost asks _ _ _ => exact ⟨⟨fun _ => asks.1, fun _ => rfl⟩, fun same => by contradiction⟩
  | answered asks _ _ _ _ => exact ⟨⟨fun _ => asks.1, fun _ => rfl⟩, fun same => by contradiction⟩

theorem label_of_asks {step : RequestStep} {request : Request} (asks : step.Asks known request) :
    request.label = step.label := by
  obtain ⟨-, made, isMade, ready⟩ := asks
  exact ScriptStep.label_of_prepare isMade ready

theorem label_of_stamp {step : RequestStep} {request : Request} (asks : step.Asks known request)
    {reply : Reply} {samples : List (Sample Float)} (part : samples ⊆ request.samples reply)
    {sample : Sample Float}
    (member : sample ∈ samples.map (Sample.stamp site.tags site.clock)) :
    sample.tags.get? "name" = some step.label := by
  obtain ⟨plain, own, rfl⟩ := List.mem_map.mp member
  rw [Request.name_of_samples (part own), label_of_asks asks]

/-- **Every sample but those of checks carries the label of its step.** -/
theorem Happened.labelled (happened : visit.Happened site known recorder sent)
    {sample : Sample Float} (member : sample ∈ visit.samples)
    (other : sample.metric ≠ BuiltIn.checks) :
    sample.tags.get? "name" = some visit.step.label := by
  unfold samples at member
  cases happened with
  | skipped unknown => exact absurd member List.not_mem_nil
  | unusable asks _ => exact absurd member List.not_mem_nil
  | @refused step request outgoing reply taken rest refused fault asks _ _ split _ _ =>
    change sample ∈ ((taken ++ [refused]).map (record site)).filterMap Deed.sample? at member
    rw [samples_record] at member
    have part : taken ++ [refused] <+: request.samples reply :=
      ⟨rest, by rw [split, List.append_assoc, List.singleton_append]⟩
    exact label_of_stamp asks part.subset member
  | @lost step request outgoing took asks _ _ _ =>
    change sample ∈ ((request.samples (.lost took)).map (record site)).filterMap Deed.sample?
      at member
    rw [samples_record] at member
    exact label_of_stamp asks (List.Subset.refl _) member
  | answered asks _ _ _ _ =>
    rw [(answered_frame site _ _ _ _ _).1] at member
    rcases List.mem_append.mp member with http | check
    · exact label_of_stamp asks (List.Subset.refl _) http
    · obtain ⟨plain, own, rfl⟩ := List.mem_map.mp check
      exact absurd (metric_of_check own) other

end Visit

end LoadTest
