/-
**Iterations of scripts keep count.**

An iteration of a script names its step, records checks, sends requests and ends; nothing else is
recorded in it. Between two points where it waits the recorder therefore only takes checks, except
right after a reply, where it takes the five samples of that reply first.

* `Activity.Scripted`: the iterations that scripts come to, from some point on;
* `Script.scripted_iteration`: every iteration of a script is one;
* `Activity.Reached`: where such an iteration waits or ends, and what was recorded by then;
* `Activity.Scripted.proceed`: going on records neither iterations nor requests;
* `Activity.Scripted.answer`: a reply records one request.
-/

import LoadTest.Proofs.Recorder.Counts
import LoadTest.Script.Iteration

namespace LoadTest

/-- **The iterations that scripts come to**, from some point on. -/
inductive Activity.Scripted : Activity → Prop where
  | finish (fault : Option IterationFault) : Scripted (.finish fault)
  | step (name : String) {next : Activity} (rest : Scripted next) : Scripted (.step name next)
  | check (name : String) (passed : Bool) {next : Activity} (rest : Scripted next) :
      Scripted (.check name passed next)
  | send (outgoing : Outgoing) (request : Request)
      {next : Except IterationFault Response → Activity}
      (rest : ∀ outcome, Scripted (next outcome)) : Scripted (.send outgoing fun reply =>
        .emitAll (request.samples reply) fun fault => next (Activity.outcomeOf request reply fault))

/-! ### Every iteration of a script -/

theorem Activity.scripted_ask (client : Client) (request : Request)
    {next : Except IterationFault Response → Activity}
    (rest : ∀ outcome, (next outcome).Scripted) : (Activity.ask client request next).Scripted := by
  unfold ask
  refine .step _ ?_
  cases client.prepare request with
  | error fault => exact rest _
  | ok outgoing => exact .send outgoing request rest

theorem ResponseCheck.scripted_record (response : Response) (checks : List ResponseCheck)
    {next : Activity} (rest : next.Scripted) : (record response checks next).Scripted := by
  induction checks with
  | nil => exact rest
  | cons check checks ih => exact .check check.name (check.holds response) ih

theorem ScriptStep.scripted_iterate (client : Client) (steps : List ScriptStep)
    (draws : Nat → Nat) (known : Variables) : (iterate client draws steps known).Scripted := by
  induction steps generalizing draws known with
  | nil => exact .finish none
  | cons step rest ih =>
    unfold iterate
    dsimp only
    cases step.prepare known with
    | none => exact ih _ known
    | some request =>
      refine Activity.scripted_ask client request fun outcome => ?_
      cases outcome with
      | error fault => exact .finish (some fault)
      | ok response => exact ResponseCheck.scripted_record response step.checks (ih _ _)

/-- **Every iteration of a script is scripted.** -/
theorem Script.scripted_iteration (script : Script) (client : Client) (draws : Nat → Nat) :
    (script.iteration client draws).Scripted :=
  ScriptStep.scripted_iterate client script.steps draws .empty

/-! ### What an iteration records -/

namespace Activity

/-- Whether the activity is over or waits for the reply to a request. -/
def isAtRest : Activity → Bool
  | finish _ => true
  | send _ _ => true
  | _ => false

/-- **Where an iteration of a script waits or ends**, with so many iterations and requests
recorded. -/
structure Reached (reached : Activity × Scene) (finished answered : ℕ) : Prop where
  scripted : reached.1.Scripted
  atRest : reached.1.isAtRest = true
  counts : reached.2.recorder.Counts finished answered

variable {tags : Tags} {clock : Duration} {scene : Scene} {finished answered : ℕ}

theorem proceed_emit (sample : Sample Float) (next : Option RecordFault → Activity) :
    (emit sample next).proceed tags clock scene =
      (next (scene.record tags clock sample).2).proceed tags clock
        (scene.record tags clock sample).1 := rfl

/-- Samples of a run are recorded one after the other, and none of them is refused. -/
theorem proceed_emitAll {samples : List (Sample Float)} (standard : scene.recorder.Standard)
    (known : ∀ sample ∈ samples, sample.Standard) (next : Option RecordFault → Activity) :
    (emitAll samples next).proceed tags clock scene =
      (next none).proceed tags clock { scene with
        recorder := scene.recorder.recordAll <| samples.map fun sample =>
          { sample with offset := clock }.withTags tags } := by
  induction samples generalizing scene with
  | nil => rfl
  | cons sample rest ih =>
    obtain ⟨after, recorded, standard', -, -, -⟩ := Recorder.record_standard standard
      ((known sample List.mem_cons_self).stamped clock tags)
    have later := @ih { scene with recorder := after } standard' fun other member =>
      known other (List.mem_cons_of_mem _ member)
    have all : scene.recorder.recordAll ((sample :: rest).map fun sample =>
        { sample with offset := clock }.withTags tags) = after.recordAll (rest.map fun sample =>
          { sample with offset := clock }.withTags tags) := by
      show Recorder.recordAll (scene.recorder.record _).1 _ = _
      rw [recorded]
    unfold emitAll
    rw [proceed_emit, all]
    unfold Scene.record
    rw [recorded]
    exact later

/-- **Going on records neither iterations nor requests.** -/
theorem Scripted.proceed {activity : Activity} (scripted : activity.Scripted)
    (counts : scene.recorder.Counts finished answered) :
    Reached (activity.proceed tags clock scene) finished answered := by
  induction scripted generalizing scene with
  | finish fault => exact ⟨.finish fault, rfl, counts⟩
  | step name rest ih => exact @ih { scene with step := some name } counts
  | send outgoing request rest ih => exact ⟨.send outgoing request rest, rfl, counts⟩
  | @check name passed next rest ih =>
    have named : ((({ (Sample.rate BuiltIn.checks passed).tag "check" name with
        offset := clock } : Sample Float).withTags tags).tags.get? "check") = some name := by
      rw [Sample.get?_withTags]
      show ((Table.empty.insert "check" name).get? "check").or _ = _
      rw [Table.get?_insert, if_pos rfl]
      rfl
    obtain ⟨after, recorded, counts'⟩ := counts.checked rfl rfl rfl named
    unfold Activity.check
    rw [proceed_emit]
    unfold Scene.record
    rw [recorded]
    exact @ih { scene with recorder := after } counts'

/-- **A reply records one request.** -/
theorem Scripted.answer {activity next : Activity} {signal : Signal} (scripted : activity.Scripted)
    (received : activity.receive signal = some next) (tags : Tags) (clock : Duration)
    (scene : Scene) (counts : scene.recorder.Counts finished answered) :
    ∃ reply, signal = .reply reply ∧
      Reached (next.proceed tags clock scene) finished (answered + 1) := by
  cases scripted with
  | finish fault => exact absurd received nofun
  | step name rest => exact absurd received nofun
  | check name passed rest => exact absurd received nofun
  | send outgoing request rest =>
    cases signal with
    | wake => exact absurd received nofun
    | reply reply =>
      obtain rfl := Option.some.inj received
      refine ⟨reply, rfl, ?_⟩
      have known := standard_samples request reply
      rw [proceed_emitAll counts.standard known]
      refine (rest _).proceed (counts.settled (standard_stamped known clock tags) ?_)
      rw [List.map_map]
      rfl

end Activity

end LoadTest
