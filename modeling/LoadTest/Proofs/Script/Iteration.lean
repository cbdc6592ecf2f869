/-
**What an iteration of a script does.**

The steps are visited in their order, and what is done at a visit depends on the visits before: a
step is sent if each of its variables was captured there, and what the latest successful capture of
a variable found is its value. The first step that fails is the last one that is visited.

* `Script.Course`: an iteration as a list of visits;
* `Script.exists_course`: from any variables, recorder and requests on there is one;
* `Script.course_of_iteration`: what a user does that begins an iteration against a server.
-/

import LoadTest.Proofs.Script.Visit

namespace LoadTest

open Text

/-! ### All steps -/

/-- **An iteration as the visits to its steps**, from some variables, recorder and requests on. What
is known at a visit was captured at the visits before, or known from the start. -/
structure Script.Course (site : Site) (draws : Nat → Nat) (known : Variables)
    (recorder : Recorder Float) (sent : List Outgoing) (requests : List RequestStep)
    (visits : List Visit) (fault : Option IterationFault) : Prop where
  /-- The steps are visited in their order. -/
  inOrder : visits.map Visit.step <+: requests
  happened : ∀ earlier visit later, visits = earlier ++ visit :: later → ∃ now : Variables,
    (∀ name, now.get? name = (latest (attempts draws earlier) name).or (known.get? name)) ∧
    visit.Happened site now (recorder.recordAll (earlier.flatMap Visit.samples))
      ((earlier.flatMap Visit.requests).reverse ++ sent)
  /-- A step that fails is the last one, and its fault that of the iteration. -/
  failed : ∀ earlier visit later error, visits = earlier ++ visit :: later →
    visit.fault? = some error → later = [] ∧ fault = some error
  /-- If none fails, all are visited and the iteration ends well. -/
  finished : (∀ visit ∈ visits, visit.fault? = none) →
    visits.map Visit.step = requests ∧ fault = none

namespace Script

variable {site : Site} {draws : Nat → Nat} {known : Variables} {recorder : Recorder Float}
  {sent : List Outgoing} {requests : List RequestStep} {visits : List Visit}
  {fault : Option IterationFault}

/-- A step that fails is the whole course. -/
theorem Course.of_failed {visit : Visit} {error : IterationFault}
    (happened : visit.Happened site known recorder sent) (failed : visit.fault? = some error) :
    Course site draws known recorder sent (visit.step :: requests) [visit] (some error) where
  inOrder := ⟨requests, rfl⟩
  happened earlier other later split := by
    obtain ⟨rfl, rfl, rfl⟩ := place_of_single split
    exact ⟨known, fun name => rfl, happened⟩
  failed earlier other later error' split failed' := by
    obtain ⟨rfl, rfl, rfl⟩ := place_of_single split
    exact ⟨rfl, failed.symm.trans failed'⟩
  finished none_failed := by
    have silent := none_failed visit List.mem_cons_self
    rw [failed] at silent
    contradiction

/-- A step that does not fail is followed by the course of the others. -/
theorem Course.cons {visit : Visit} {now : Variables}
    (happened : visit.Happened site known recorder sent) (silent : visit.fault? = none)
    (knows : ∀ name, now.get? name = (latest (visit.attempts draws) name).or (known.get? name))
    (course : Course site (fun place => draws (place + visit.step.captures.length)) now
      (recorder.recordAll visit.samples) (visit.requests.reverse ++ sent) requests visits fault) :
    Course site draws known recorder sent (visit.step :: requests) (visit :: visits) fault where
  inOrder := List.prefix_cons_inj visit.step |>.mpr course.inOrder
  happened earlier other later split := by
    obtain ⟨rfl, rfl, rfl⟩ | ⟨before, rfl, rest⟩ := place_of_split split
    · exact ⟨known, fun name => rfl, happened⟩
    · obtain ⟨then?, known?, there⟩ := course.happened before other later rest
      refine ⟨then?, fun name => ?_, ?_⟩
      · rw [known?, knows]
        show _ = (latest (_ ++ _) name).or _
        rw [latest_append, Option.or_assoc]
      · rw [List.flatMap_cons, List.flatMap_cons, List.reverse_append, List.append_assoc]
        unfold Recorder.recordAll at there ⊢
        rw [List.foldl_append]
        exact there
  failed earlier other later error split failed := by
    obtain ⟨rfl, rfl, rfl⟩ | ⟨before, rfl, rest⟩ := place_of_split split
    · rw [silent] at failed
      contradiction
    · exact course.failed before other later error rest failed
  finished none_failed := by
    obtain ⟨all, ends⟩ := course.finished fun other member =>
      none_failed other (List.mem_cons_of_mem _ member)
    exact ⟨by rw [List.map_cons, all], ends⟩

/-- **Every iteration has a course**, which is what it does. -/
theorem exists_course (site : Site) {steps : List ScriptStep}
    (made : List.Forall₂ (fun declared step => ScriptStep.ofRequest declared = .ok step)
      requests steps)
    (draws : Nat → Nat) (known : Variables) (recorder : Recorder Float) (sent : List Outgoing) :
    ∃ visits fault, Course site draws known recorder sent requests visits fault ∧
      (ScriptStep.iterate site.client draws steps known).playAt site recorder sent =
        (visits.flatMap Visit.deeds, fault) := by
  -- A visit changes what is known, recorded and sent, so later steps start from other values.
  induction made generalizing draws known recorder sent with
  | nil =>
    refine ⟨[], none, ⟨List.prefix_rfl, ?_, ?_, fun _ => ⟨rfl, rfl⟩⟩, rfl⟩
    · exact fun earlier visit later split => by cases earlier <;> contradiction
    · exact fun earlier visit later error split => by cases earlier <;> contradiction
  | cons first rest ih =>
    obtain ⟨visit, rfl, happened, fails, goesOn⟩ :=
      ScriptStep.begins site first draws _ known recorder sent
    cases failed : visit.fault? with
    | some error =>
      refine ⟨[visit], some error, .of_failed happened failed, ?_⟩
      rw [fails error failed, List.flatMap_singleton]
    | none =>
      obtain ⟨now, knows, same⟩ := goesOn failed
      obtain ⟨visits, fault, course, played⟩ := ih
        (fun place => draws (place + visit.step.captures.length)) now
        (recorder.recordAll visit.samples) (visit.requests.reverse ++ sent)
      refine ⟨visit :: visits, fault, .cons happened failed knows course, ?_⟩
      dsimp only at same
      rw [same, played, List.flatMap_cons]

end Script

/-! ### Whole iterations -/

section Whole

variable {requests : List RequestStep} {script : Script}

theorem Script.mapM_of_ofSteps (made : Script.ofSteps requests = .ok script) :
    requests.mapM ScriptStep.ofRequest = .ok script.steps := by
  unfold ofSteps at made
  cases result : requests.mapM ScriptStep.ofRequest with
  | error fault =>
    rw [result] at made
    contradiction
  | ok steps =>
    rw [result] at made
    obtain rfl : ⟨steps⟩ = script := Except.ok.inj made
    rfl

/-- **An iteration of a script**, begun by a user against a server. A step is sent if and only if
each of its variables was captured in the iteration before; every sample but those of checks carries
the name of its step, or else the URL as it is written; and the user completes the iteration with
the fault of the step that failed, having done nothing but what was done at the visits. -/
theorem Script.course_of_iteration (made : Script.ofSteps requests = .ok script) (client : Client)
    (draws : Nat → Nat) (server : List Outgoing → Reply) (setup : Setup) (now : Duration)
    (user : User) (journal : Journal)
    (scripted : setup.scenario user.id (user.iteration + 1) = script.iteration client draws)
    (sent : List Outgoing) :
    ∃ visits fault,
      Course ⟨client, server, setup.plan.tags, setup.clock now⟩ draws .empty journal.recorder sent
        requests visits fault ∧
      (∀ earlier visit later, visits = earlier ++ visit :: later →
        (visit.result.isSome = true ↔
          ∀ name ∈ visit.step.names, ∃ value, latest (attempts draws earlier) name = some value) ∧
        (visit.result = none → visit.deeds = [])) ∧
      (∀ visit ∈ visits, ∀ sample ∈ visit.samples, sample.metric ≠ BuiltIn.checks →
        sample.tags.get? "name" = some visit.step.label) ∧
      let signals := (script.iteration client draws).signals server setup.plan.tags
        (setup.clock now) ⟨journal.recorder, none, journal.notes⟩ sent
      let deeds := visits.flatMap Visit.deeds
      User.hear setup now signals (user.begin setup now journal) =
        { user with
          iteration := user.iteration + 1
          step := deeds.foldl Deed.stepAfter none
          since := now }.complete setup now now fault
            ((journal.add (.began user.id (user.iteration + 1) now)).after user.id deeds) := by
  obtain ⟨visits, fault, course, played⟩ :=
    exists_course ⟨client, server, setup.plan.tags, setup.clock now⟩
      (forall₂_of_mapM (mapM_of_ofSteps made)) draws .empty journal.recorder sent
  refine ⟨visits, fault, course, fun earlier visit later split => ?_, fun visit member => ?_, ?_⟩
  · obtain ⟨known, knows, happened⟩ := course.happened earlier visit later split
    obtain ⟨sentIff, silent⟩ := happened.sent_iff
    -- Nothing is known at the start, so all that is known was captured.
    refine ⟨sentIff.trans (forall₂_congr fun name _ => ?_), silent⟩
    rw [knows, Table.get?_empty, Option.or_none]
  · obtain ⟨earlier, later, split⟩ := List.append_of_mem member
    obtain ⟨known, -, happened⟩ := course.happened earlier visit later split
    exact fun sample inside other => happened.labelled inside other
  · have heard := User.hear_begin setup now server journal sent scripted
    change Activity.play server setup.plan.tags (setup.clock now)
      (script.iteration client draws) journal.recorder sent = _ at played
    dsimp only at heard ⊢
    rw [played] at heard
    exact heard

end Whole

/-- A token is captured by the first step and used by the second one, the third is left out: two
requests are sent. -/
theorem Script.course_of_token :
    let requests : List RequestStep :=
      [{ method := "post", url := "http://localhost/login", name := some "login", headers := .empty
         json := none, body := some "user", checks := [⟨"ok", some 200, none, some "token", none⟩]
         captures := [⟨"token", "/token", false⟩] },
        { method := "get", url := "http://localhost/items", name := none
          headers := .ofList [("X-Token", "\x7b\x7b token \x7d\x7d")], json := none, body := none
          checks := [⟨"ok", some 200, none, none, none⟩], captures := [] },
        { method := "get", url := "http://localhost/\x7b\x7bmissing\x7d\x7d", name := none
          headers := .empty, json := none, body := none, checks := [], captures := [] }]
    let server : List Outgoing → Reply := fun _ =>
      .response 200 [] (Utf8.encode "\x7b\"token\":\"abc\"\x7d") (.ofMillis 3)
    let client : Client := ⟨none, .empty⟩
    let draws : Nat → Nat := id
    let journal : Journal := ⟨.new [], [], []⟩
    ∃ script, Script.ofSteps requests = .ok script ∧
      ((script.iteration client draws).signals server .empty .zero ⟨journal.recorder, none, []⟩
        []).length = 2 ∧
      ∃ visits fault,
        Course ⟨client, server, .empty, .zero⟩ draws .empty journal.recorder [] requests visits fault := by
  intro requests server client draws journal
  have evaluated : (Script.ofSteps requests).toOption.map (fun script =>
      ((script.iteration client draws).signals server .empty .zero ⟨journal.recorder, none, []⟩
        []).length) = some 2 := by
    decide +kernel
  cases made : Script.ofSteps requests with
  | error fault =>
    rw [made] at evaluated
    contradiction
  | ok script =>
    rw [made] at evaluated
    obtain ⟨visits, fault, course, -⟩ := Script.course_of_iteration made client draws server
      (Setup.of (.named "token") fun _ _ => script.iteration client draws) .zero (.fresh .zero 1)
      journal rfl []
    exact ⟨script, rfl, Option.some.inj evaluated, visits, fault, course⟩

end LoadTest
