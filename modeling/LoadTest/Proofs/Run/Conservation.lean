/-
**No sample of a run is lost or counted twice.**

What happened in a run stands in its journal. Every iteration that begins ends or is dropped, every
request that is sent has an outcome or is dropped with its iteration, and while the run goes on one
more of either stands open for each user in an iteration. For each end the recorder takes three
samples, for each outcome five, and besides them only those of checks. Users that are retired or
dropped, in whatever order, add nothing, and the recorder is sealed only after the last of them is
gone. So the recorder of a run that is over says what happened.

* `Journal.Conserved`: the recorder counts what the journal tells;
* `User.advance_conserved`: a signal keeps that;
* `Run.Balanced`: what holds of the result and the recorder of a run that is over;
* `Run.balanced_of_result`: every run of a script that is over is balanced.
-/

import LoadTest.Proofs.Run.Busy
import LoadTest.Proofs.Run.Scripted

namespace LoadTest

/-! ### The journal -/

/-- The kinds of entries. -/
inductive Entry.Kind where
  | log
  | began
  | sent
  | settled
  | ended
  | dropped
  | left
deriving DecidableEq

/-- The kind of an entry. -/
def Entry.kind : Entry → Kind
  | log .. => .log
  | began .. => .began
  | sent .. => .sent
  | settled .. => .settled
  | ended .. => .ended
  | dropped .. => .dropped
  | left .. => .left

namespace Journal

/-- How many entries of a kind there are. -/
def count (journal : Journal) (kind : Entry.Kind) : ℕ :=
  journal.entries.countP fun entry => entry.kind = kind

/-- **The recorder counts what the journal tells**, while so many iterations are going on and so
many requests have no outcome. -/
structure Conserved (journal : Journal) (going waiting : ℕ) : Prop where
  counts : journal.recorder.Counts (journal.count .ended) (journal.count .settled)
  begun : journal.count .began = journal.count .ended + journal.count .dropped + going
  sent : journal.count .sent = journal.count .settled + journal.count .dropped + waiting

variable {journal : Journal} {going waiting : ℕ} {entry : Entry}

theorem count_add (journal : Journal) (entry : Entry) (kind : Entry.Kind) :
    (journal.add entry).count kind = journal.count kind + (if entry.kind = kind then 1 else 0) := by
  unfold count add
  rw [List.countP_cons]
  simp only [decide_eq_true_eq]

theorem Conserved.log (conserved : journal.Conserved going waiting) (level : Level)
    (message : String) : (journal.log level message).Conserved going waiting := by
  obtain ⟨counts, begun, sent⟩ := conserved
  unfold Journal.log
  constructor <;> simpa only [count_add, Entry.kind, reduceCtorEq, if_false, add_zero]

theorem Conserved.leave (conserved : journal.Conserved going waiting) (user : ℕ) (exit : Exit) :
    (journal.add (.left user exit)).Conserved going waiting := by
  obtain ⟨counts, begun, sent⟩ := conserved
  constructor <;> simpa only [count_add, Entry.kind, reduceCtorEq, if_false, add_zero]

theorem Conserved.begin (conserved : journal.Conserved going waiting) (user iteration : ℕ)
    (now : Duration) :
    (journal.add (.began user iteration now)).Conserved (going + 1) waiting := by
  obtain ⟨counts, begun, sent⟩ := conserved
  constructor <;> simp only [count_add, Entry.kind, reduceCtorEq, if_false, if_true, add_zero]
  · exact counts
  · omega
  · exact sent

theorem Conserved.send (conserved : journal.Conserved going waiting) (user : ℕ)
    (request : Outgoing) : (journal.add (.sent user request)).Conserved going (waiting + 1) := by
  obtain ⟨counts, begun, sent⟩ := conserved
  constructor <;> simp only [count_add, Entry.kind, reduceCtorEq, if_false, if_true, add_zero]
  · exact counts
  · exact begun
  · omega

/-- An iteration that is dropped takes with it the request that it waits for. -/
theorem Conserved.drop (conserved : journal.Conserved (going + 1) (waiting + 1))
    (user iteration : ℕ) (now : Duration) :
    (journal.add (.dropped user iteration now)).Conserved going waiting := by
  obtain ⟨counts, begun, sent⟩ := conserved
  constructor <;> simp only [count_add, Entry.kind, reduceCtorEq, if_false, if_true, add_zero]
  · exact counts
  · omega
  · omega

/-- An iteration that ends is recorded by its samples. -/
theorem Conserved.complete {setup : Setup} {now : Duration}
    (conserved : journal.Conserved (going + 1) waiting) (took : Duration) (failed : Bool)
    (user iteration : ℕ) (step : Option String) (fault : Option IterationFault) :
    ((journal.record setup now (iterationSamples took failed)).add
      (.ended user iteration now step fault)).Conserved going waiting := by
  obtain ⟨counts, begun, sent⟩ := conserved
  have same : ∀ kind, (journal.record setup now (iterationSamples took failed)).count kind =
      journal.count kind := fun _ => rfl
  constructor <;>
    simp only [count_add, same, Entry.kind, reduceCtorEq, if_false, if_true, add_zero]
  · exact counts.ended (standard_stamped (standard_iterationSamples took failed)
      (setup.clock now) setup.plan.tags) rfl rfl
  · omega
  · exact sent

end Journal

/-! ### Users -/

/-- Whatever iteration the user is in, it is one of a script. -/
def User.Scripted (user : User) : Prop :=
  ∀ began activity, user.life = .busy began activity → activity.Scripted

/-- All iterations are those of scripts. -/
def Setup.Scripted (setup : Setup) : Prop :=
  ∀ user iteration, (setup.scenario user iteration).Scripted

namespace User

variable {setup : Setup} {now began : Duration} {user : User} {journal : Journal} {others : ℕ}

/-- **A user and a journal as they are to be after every step**, while so many other users are in an
iteration. -/
structure Conserved (others : ℕ) (next : User × Journal) : Prop where
  inScript : next.1.Scripted
  journal : next.2.Conserved (others + next.1.isBusy.toNat) (others + next.1.isBusy.toNat)

theorem conserved_idle {next : User × Journal} (idle : next.1.isBusy = false)
    (journal : next.2.Conserved others others) : Conserved others next := by
  refine ⟨fun began activity busy => ?_, ?_⟩
  · exact absurd (idle.symm.trans (congrArg Life.isBusy busy)) nofun
  · rw [idle]
    exact journal

theorem conserved_busy {next : User × Journal} {activity : Activity}
    (busy : next.1.life = .busy began activity) (inScript : activity.Scripted)
    (journal : next.2.Conserved (others + 1) (others + 1)) : Conserved others next := by
  refine ⟨fun since other same => ?_, ?_⟩
  · obtain ⟨-, rfl⟩ := Life.busy.inj (busy.symm.trans same)
    exact inScript
  · rw [isBusy, busy]
    exact journal

/-- Nothing stands open for a user that is in no iteration. -/
theorem Conserved.idle (conserved : Conserved others (user, journal))
    (idle : user.life.isBusy = false) : journal.Conserved others others := by
  have kept := conserved.journal
  rw [show (user, journal).1.isBusy = false from idle] at kept
  exact kept

/-- For a user in an iteration this iteration and one request stand open. -/
theorem Conserved.busy (conserved : Conserved others (user, journal))
    (busy : user.life.isBusy = true) : journal.Conserved (others + 1) (others + 1) := by
  have kept := conserved.journal
  rw [show (user, journal).1.isBusy = true from busy] at kept
  exact kept

/-- An iteration that ended is recorded once. -/
theorem complete_conserved (conserved : journal.Conserved (others + 1) others) (began : Duration)
    (fault : Option IterationFault) :
    Conserved others (user.complete setup now began fault journal) := by
  have between : ∀ pauses : Bool, (if pauses then Life.pausing else .ready).isBusy = false := by
    intro pauses
    cases pauses <;> rfl
  exact conserved_idle (between _)
    (conserved.complete (setup.took began now) fault.isSome _ _ _ fault)

/-- **An iteration that goes on** ends or waits for the reply to another request. -/
theorem proceed_conserved {activity : Activity}
    (reached : Activity.Reached (activity.proceed setup.plan.tags (setup.clock now)
      ⟨journal.recorder, user.step, journal.notes⟩) (journal.count .ended) (journal.count .settled))
    (begun : journal.count .began =
      journal.count .ended + journal.count .dropped + (others + 1))
    (sent : journal.count .sent = journal.count .settled + journal.count .dropped + others) :
    Conserved others (user.proceed setup now began activity journal) := by
  unfold proceed
  generalize activity.proceed setup.plan.tags (setup.clock now)
    ⟨journal.recorder, user.step, journal.notes⟩ = result at reached
  obtain ⟨next, scene⟩ := result
  obtain ⟨inScript, atRest, counts⟩ := reached
  have conserved : Journal.Conserved ⟨scene.recorder, journal.entries, scene.notes⟩
      (others + 1) others := ⟨counts, begun, sent⟩
  dsimp only
  cases next with
  | finish fault => exact complete_conserved conserved began fault
  | send request next => exact conserved_busy rfl inScript (conserved.send user.id request)
  | step _ _ | emit _ _ | note _ _ | sleep _ _ =>
    -- An iteration of a script is at rest nowhere else.
    contradiction

theorem leave_conserved (conserved : journal.Conserved others others) (exit : Exit) :
    Conserved others (user.leave exit journal) :=
  conserved_idle rfl (conserved.leave user.id exit)

theorem drop_conserved (conserved : journal.Conserved (others + 1) (others + 1)) :
    Conserved others (user.drop now journal) :=
  leave_conserved (conserved.drop user.id user.iteration now) .aborted

theorem arrive_conserved (scripted : setup.Scripted) (conserved : journal.Conserved others others)
    (aborting : Bool) : Conserved others (user.arrive setup now aborting journal) := by
  unfold arrive
  by_cases retired : user.retired = true
  · rw [if_pos retired]
    exact leave_conserved conserved .retired
  · rw [if_neg retired]
    by_cases dropping : aborting = true
    · rw [if_pos dropping]
      exact leave_conserved conserved .aborted
    · rw [if_neg dropping]
      obtain ⟨counts, begun, sent⟩ := conserved.begin user.id (user.iteration + 1) now
      refine proceed_conserved ((scripted user.id (user.iteration + 1)).proceed ?_) begun sent
      exact counts

/-- A reply closes the request that the user waits for. -/
theorem answer_conserved {activity next : Activity} (inScript : activity.Scripted) {reply : Reply}
    (received : activity.receive (.reply reply) = some next)
    (conserved : journal.Conserved (others + 1) (others + 1)) :
    Conserved others
      (user.proceed setup now began next (journal.add (.settled user.id reply))) := by
  obtain ⟨counts, begun, sent⟩ := conserved
  obtain ⟨-, -, reached⟩ := inScript.answer received setup.plan.tags (setup.clock now)
    ⟨journal.recorder, user.step, journal.notes⟩ counts
  refine proceed_conserved ?_ ?_ ?_ <;>
    simp only [Journal.count_add, Entry.kind, reduceCtorEq, if_false, if_true, add_zero]
  · exact reached
  · exact begun
  · omega

/-- **A signal keeps the count**, whatever the user does after it. -/
theorem advance_conserved (scripted : setup.Scripted)
    (conserved : Conserved others (user, journal)) (aborting : Bool) (signal : Signal) :
    Conserved others (user.advance setup now aborting signal journal) := by
  unfold advance
  cases life : user.life with
  | gone _ => exact conserved
  | ready => exact arrive_conserved scripted (conserved.idle (congrArg _ life)) aborting
  | pausing =>
    cases signal with
    | wake => exact arrive_conserved scripted (conserved.idle (congrArg _ life)) aborting
    | reply _ => exact conserved
  | busy began activity =>
    have waits := conserved.busy (congrArg Life.isBusy life)
    have inScript := conserved.inScript began activity life
    dsimp only
    by_cases dropping : aborting = true
    · rw [if_pos dropping]
      exact drop_conserved waits
    · rw [if_neg dropping]
      cases received : activity.receive signal with
      | none => exact conserved
      | some next =>
        cases signal with
        | reply reply => exact answer_conserved inScript received waits
        | wake =>
          -- Iterations of scripts do not sleep, so no time that passes takes one further.
          cases inScript <;> exact absurd received nofun

theorem advance_id (aborting : Bool) (signal : Signal) :
    (user.advance setup now aborting signal journal).1.id = user.id := by
  unfold advance
  cases user.life with
  | gone _ => rfl
  | ready => exact (arrive_frame aborting).1
  | pausing =>
    cases signal with
    | wake => exact (arrive_frame aborting).1
    | reply _ => rfl
  | busy began activity =>
    dsimp only
    by_cases dropping : aborting = true
    · rw [if_pos dropping]
      rfl
    · rw [if_neg dropping]
      cases activity.receive signal with
      | none => rfl
      | some next => exact (proceed_frame next).1

/-- Nothing stands open for a user any more once the run is closed. -/
theorem discard_conserved (conserved : Conserved others (user, journal)) :
    (user.discard now journal).2.Conserved others others := by
  unfold discard
  cases life : user.life with
  | gone _ => exact conserved.idle (congrArg _ life)
  | busy _ _ => exact ((conserved.busy (congrArg _ life)).drop _ _ now).leave _ .aborted
  | ready => exact (conserved.idle (congrArg _ life)).leave _ .aborted
  | pausing => exact (conserved.idle (congrArg _ life)).leave _ .aborted

end User

/-! ### Runs -/

namespace Run

/-- Whether the run is over and has a result. -/
def isClosed (run : Run) : Bool :=
  match run.phase with
  | .closed .. => true
  | _ => false

/-- **What holds of a run that is not over.** -/
structure Conserved (run : Run) : Prop where
  unclosed : run.isClosed = false
  apart : run.pool.Apart
  users : ∀ user ∈ run.pool.users, user.Scripted
  journal : run.journal.Conserved run.pool.busy run.pool.busy

/-- **What holds of the result and the recorder of a run that is over**, by what happened in it. The
iterations of the result are a running total of floats: it says how many there were up to `2 ^ 53`
of them, more than can be kept of a trend, and would stay there. -/
structure Balanced (run : Run) (result : RunResult) : Prop where
  shut : run.journal.recorder.isSealed = true
  /-- No sample came after the recorder was sealed. -/
  complete : run.journal.recorder.dropped = 0
  /-- Every iteration that began ran to its end or was dropped. -/
  begun : run.journal.count .began = run.journal.count .ended + run.journal.count .dropped
  /-- The outcome of every request became known, or its iteration was dropped before. -/
  sent : run.journal.count .sent = run.journal.count .settled + run.journal.count .dropped
  iterations : result.iterations = min (run.journal.count .ended) (2 ^ 53)
  /-- The metrics of iterations have a sample for every iteration that ran to its end. -/
  ends : ∀ metric ∈ Recorder.endedMetrics, ∀ time,
    (run.journal.recorder.aggregate ⟨metric, []⟩ time).map Aggregate.samples =
      some (run.journal.count .ended)
  /-- The metrics of requests have a sample for every request whose outcome became known. -/
  outcomes : ∀ metric ∈ Recorder.settledMetrics, ∀ time,
    (run.journal.recorder.aggregate ⟨metric, []⟩ time).map Aggregate.samples =
      some (run.journal.count .settled)
  /-- The checks by name add up to the metric of checks. -/
  checks : ∀ time, run.journal.recorder.aggregate ⟨BuiltIn.checks, []⟩ time =
    some (.rate (result.checks.sum CheckTally.passes) (result.checks.sum CheckTally.fails) [])

/-- What holds of a run in each of its phases. -/
def Accounted (run : Run) : Prop :=
  match run.phase with
  | .closed result _ => run.Balanced result
  | _ => run.Conserved

variable {setup : Setup} {run : Run} {now : Duration}

theorem accounted_iff (unclosed : run.isClosed = false) : run.Accounted ↔ run.Conserved := by
  unfold isClosed at unclosed
  unfold Accounted
  split
  · rename_i closed
    rw [closed] at unclosed
    contradiction
  · exact Iff.rfl

theorem Conserved.accounted (conserved : run.Conserved) : run.Accounted :=
  (accounted_iff conserved.unclosed).mpr conserved

theorem conserved_start (setup : Setup) : (Run.start setup).Conserved where
  unclosed := rfl
  apart := Pool.apart_empty
  users _ member := absurd member List.not_mem_nil
  journal := Journal.Conserved.log ⟨Recorder.counts_new _, rfl, rfl⟩ .info _

theorem Conserved.log (conserved : run.Conserved) (level : Level) (message : String) :
    (run.log level message).Conserved :=
  ⟨conserved.unclosed, conserved.apart, conserved.users, conserved.journal.log level message⟩

theorem Conserved.stop (conserved : run.Conserved) (status : RunStatus) :
    (run.stop status now).Conserved := by
  refine ⟨rfl, conserved.apart.map fun _ => rfl, fun user member => ?_, ?_⟩
  · obtain ⟨before, inside, rfl⟩ := Pool.mem_map member
    exact conserved.users before inside
  · show run.journal.Conserved run.pool.retireAll.busy run.pool.retireAll.busy
    rw [Pool.retireAll_busy]
    exact conserved.journal

theorem Conserved.announce (conserved : run.Conserved) (schedule : Schedule) :
    (run.announce schedule now).Conserved := by
  unfold Run.announce
  dsimp only
  split
  · exact conserved
  · split
    · exact ⟨conserved.unclosed, conserved.apart, conserved.users, (conserved.log _ _).journal⟩
    · exact ⟨conserved.unclosed, conserved.apart, conserved.users, conserved.journal⟩

theorem Conserved.tick (conserved : run.Conserved) : (run.tick setup now).Conserved := by
  have announced : (run.announce setup.plan.schedule now).Conserved :=
    conserved.announce setup.plan.schedule
  unfold Run.tick
  dsimp only
  generalize run.announce setup.plan.schedule now = run at announced
  have reaped : Conserved { run with pool := run.pool.reap } := by
    refine ⟨announced.unclosed, announced.apart.reap,
      fun user member => announced.users user (Pool.mem_reap member), ?_⟩
    rw [Pool.reap_busy]
    exact announced.journal
  obtain ⟨unclosed, apart, users, journal⟩ := reaped
  split
  · exact Conserved.stop ⟨unclosed, apart, users, journal⟩ .completed
  · cases told : run.pool.reap.setTarget now setup.plan.maxUsers (setup.usersAt now) with
    | error fault => exact ⟨rfl, apart, users, journal⟩
    | ok pool =>
      obtain ⟨apart', same, lives⟩ := Pool.setTarget_spec apart told
      refine ⟨unclosed, apart', fun user member began activity busy => ?_, ?_⟩
      · rcases lives user member with ready | ⟨before, inside, stands⟩
        · exact absurd (ready.symm.trans busy) nofun
        · exact users before inside began activity (stands.symm.trans busy)
      · rw [same]
        exact journal

theorem Conserved.advance (conserved : run.Conserved) (scripted : setup.Scripted) (id : Nat)
    (signal : Signal) : (run.advance setup now id signal).Conserved := by
  unfold Run.advance
  cases found : run.pool.find? id with
  | none => exact conserved
  | some user =>
    have inside := List.mem_of_find?_eq_some found
    obtain ⟨others, whole, replaced⟩ := Pool.busy_replace conserved.apart inside
    have before : User.Conserved others (user, run.journal) := by
      refine ⟨conserved.users user inside, ?_⟩
      rw [← whole]
      exact conserved.journal
    obtain ⟨inScript, journal⟩ : User.Conserved others
        (user.advance setup now run.aborting signal run.journal) :=
      User.advance_conserved scripted before run.aborting signal
    refine ⟨conserved.unclosed, conserved.apart.replace _, fun other member => ?_, ?_⟩
    · rcases Pool.mem_replace member with rfl | before
      · exact inScript
      · exact conserved.users other before
    · dsimp only
      rw [replaced _ (User.advance_id run.aborting signal)]
      exact journal

theorem Conserved.graceOver (conserved : run.Conserved) : (run.graceOver setup).Conserved := by
  have dropping : Conserved { run with aborting := true } :=
    ⟨conserved.unclosed, conserved.apart, conserved.users, conserved.journal⟩
  unfold Run.graceOver
  dsimp only
  split
  · exact conserved
  · split
    · exact dropping
    · exact dropping.log _ _

theorem dropAll_conserved {users : List User} {journal : Journal}
    (inScript : ∀ user ∈ users, user.Scripted)
    (conserved : journal.Conserved (users.countP User.isBusy) (users.countP User.isBusy)) :
    (dropAll now users journal).2.Conserved 0 0 := by
  induction users generalizing journal with
  | nil => exact conserved
  | cons user rest ih =>
    have first : User.Conserved (rest.countP User.isBusy) (user, journal) := by
      refine ⟨inScript user List.mem_cons_self, ?_⟩
      rw [User.countP_busy] at conserved
      exact conserved
    exact ih (fun other member => inScript other (List.mem_cons_of_mem _ member))
      (User.discard_conserved first)

/-- **Closing a run balances it.** -/
theorem Conserved.close (conserved : run.Conserved) (status : RunStatus) :
    (run.close setup status now).Accounted := by
  obtain ⟨counts, begun, sent⟩ : (dropAll now run.pool.users run.journal).2.Conserved 0 0 :=
    dropAll_conserved conserved.users conserved.journal
  have kept : ∀ metric time count,
      (dropAll now run.pool.users run.journal).2.recorder.samplesOf metric = some count →
      ((run.close setup status now).journal.recorder.aggregate ⟨metric, []⟩ time).map
        Aggregate.samples = some count := by
    intro metric time count counted
    obtain ⟨sink, found, rfl⟩ := Option.map_eq_some_iff.mp counted
    unfold Recorder.aggregate
    rw [Selector.show_untagged rfl]
    show (((dropAll now run.pool.users run.journal).2.recorder.sinks.get? metric).map _).map _ = _
    rw [found]
    exact congrArg some (Sink.samples_aggregate sink _)
  exact {
    shut := rfl
    complete := counts.kept
    begun := begun
    sent := sent
    iterations := counts.iterations_eq
    ends := fun metric member time => kept metric time _ (counts.iterations metric member)
    outcomes := fun metric member time => kept metric time _ (counts.requests metric member)
    checks := fun time => by
      unfold Recorder.aggregate
      rw [Selector.show_untagged rfl]
      show ((dropAll now run.pool.users run.journal).2.recorder.sinks.get? _).map _ = _
      rw [counts.checks]
      rfl }

theorem Conserved.watch (conserved : run.Conserved) : (run.watch setup now).Conserved := by
  unfold Run.watch
  split
  · exact conserved
  · exact (conserved.log _ _).stop .abortedByThreshold

/-- **A step keeps a run accounted for.** -/
theorem Accounted.step (accounted : run.Accounted) (scripted : setup.Scripted)
    (happening : Happening) : (run.step setup now happening).Accounted := by
  unfold Run.step
  cases phase : run.phase with
  | closed result departures => exact accounted
  | faulted fault => exact accounted
  | running =>
    have conserved := (accounted_iff (by rw [isClosed, phase])).mp accounted
    have dropping : Conserved { run with aborting := true } :=
      ⟨conserved.unclosed, conserved.apart, conserved.users, conserved.journal⟩
    cases happening with
    | user id signal => exact (conserved.advance scripted id signal).accounted
    | tick => exact conserved.tick.accounted
    | cancel => exact ((conserved.log _ _).stop .interrupted).accounted
    | deadline => exact ((conserved.log _ _).stop .interrupted).accounted
    | abort => exact ((dropping.log _ _).stop .interrupted).accounted
    | watch => exact conserved.watch.accounted
    | graceOver => exact accounted
    | close => exact accounted
  | stopping status since =>
    have conserved := (accounted_iff (by rw [isClosed, phase])).mp accounted
    cases happening with
    | user id signal => exact (conserved.advance scripted id signal).accounted
    | abort => exact Conserved.accounted ⟨rfl, conserved.apart, conserved.users, conserved.journal⟩
    | graceOver => exact conserved.graceOver.accounted
    | close =>
      dsimp only
      split
      · exact conserved.close status
      · exact accounted
    | tick => exact accounted
    | cancel => exact accounted
    | deadline => exact accounted
    | watch => exact accounted

theorem Accounted.follow (accounted : run.Accounted) (scripted : setup.Scripted)
    (happenings : List (Duration × Happening)) : (run.follow setup happenings).Accounted := by
  induction happenings generalizing run with
  | nil => exact accounted
  | cons next rest ih => exact ih (accounted.step scripted next.2)

/-- **No sample of a run of a script is lost or counted twice**, whatever servers answer and in
whatever order users go on, are retired and are dropped. -/
theorem balanced_of_result {script : Script} {client : Client} {draws : Nat → Nat → Nat → Nat}
    (isScript : ∀ user iteration,
      setup.scenario user iteration = script.iteration client (draws user iteration))
    (happenings : List (Duration × Happening)) {result : RunResult}
    (closed : ((Run.start setup).follow setup happenings).result? = some result) :
    ((Run.start setup).follow setup happenings).Balanced result := by
  have scripted : setup.Scripted := by
    intro user iteration
    rw [isScript]
    exact script.scripted_iteration client (draws user iteration)
  have accounted := (conserved_start setup).accounted.follow scripted happenings
  unfold Run.result? at closed
  unfold Accounted at accounted
  cases phase : ((Run.start setup).follow setup happenings).phase with
  | closed found departures =>
    rw [phase] at closed accounted
    obtain rfl := Option.some.inj closed
    exact accounted
  | running | stopping _ _ | faulted _ =>
    rw [phase] at closed
    contradiction

/-- Two users whose iterations look at a page. -/
def visiting : Setup :=
  .of { Plan.named "visits" with schedule := ⟨2, [⟨.ofWholeSeconds 10, 2⟩]⟩ } fun _ _ =>
    Script.iteration ⟨[⟨"GET", "http://localhost/", "page", [], none,
      [⟨"found", some 200, none, none, none⟩], []⟩]⟩ ⟨none, .empty⟩ fun _ => 0

/-- The first user is answered, the second one is not; both begin anew and are dropped. -/
def visits : List (Duration × Happening) :=
  [(.zero, .tick), (.ofMillis 1, .user 1 .wake), (.ofMillis 2, .user 2 .wake),
    (.ofMillis 3, .user 1 (.reply (.response 200 [] [] (.ofMillis 2)))),
    (.ofMillis 4, .user 2 (.reply (.lost (.ofMillis 2)))), (.ofMillis 5, .user 1 .wake),
    (.ofMillis 6, .user 2 .wake), (.ofMillis 7, .abort), (.ofMillis 8, .close)]

theorem balanced_visits : ∃ result,
    ((Run.start visiting).follow visiting visits).result? = some result ∧
      ((Run.start visiting).follow visiting visits).Balanced result ∧ result.iterations = 2 := by
  have ended : ((Run.start visiting).follow visiting visits).result?.isSome = true := by
    decide +kernel
  have ends : ((Run.start visiting).follow visiting visits).journal.count .ended = 2 := by
    decide +kernel
  obtain ⟨result, closed⟩ := Option.isSome_iff_exists.mp ended
  have balanced := balanced_of_result (fun _ _ => rfl) visits closed
  refine ⟨result, closed, balanced, ?_⟩
  rw [balanced.iterations, ends]
  rfl

end Run

end LoadTest
