/-
**What is recorded in a run.**

Besides what its users emit in their iterations, a run records three samples for every iteration
that ends, and nothing for one that is dropped. All that the recorder gets can be listed, each
sample with the iteration whose end it records, and the list agrees with the journal: an iteration
that ended has its three samples, any other has none.

* `Run.deposits`: all samples of a run, in their order;
* `Run.Sampled`: the list is what the recorder got, and agrees with the journal;
* `Run.sampled_moment`: it does so at every moment;
* `Run.Sampled.counted`: a metric of iterations counts those that ended, and what is emitted to it.
-/

import LoadTest.Proofs.Recorder.Arrivals
import LoadTest.Proofs.Run.Played
import LoadTest.Proofs.Run.Turns

namespace LoadTest

/-! ### What a user deposits -/

/-- A sample as the recorder of a run gets it. -/
structure Deposit where
  sample : Sample Float
  /-- The iteration whose end it records, by the numbers of the user and the iteration. -/
  closes : Option (ℕ × ℕ)

/-- The samples that an activity emits up to where it waits or ends, and how it ends if it does. -/
def Activity.emitted (tags : Tags) (clock : Duration) :
    Activity → Recorder Float → List (Sample Float) × Option (Option IterationFault)
  | finish fault, _ => ([], some fault)
  | step _ next, recorder | note _ next, recorder => next.emitted tags clock recorder
  | emit sample next, recorder =>
    let (after, fault) := recorder.record (sample.stamp tags clock)
    let rest := (next fault).emitted tags clock after
    (sample.stamp tags clock :: rest.1, rest.2)
  | send _ _, _ | sleep _ _, _ => ([], none)

/-- The samples of an iteration that ended, as the recorder gets them. -/
def Setup.closing (setup : Setup) (began now : Duration) (fault : Option IterationFault) :
    List (Sample Float) :=
  (iterationSamples (setup.took began now) fault.isSome).map
    (Sample.stamp setup.plan.tags (setup.clock now))

namespace User

/-- The iteration that a user begins between two iterations, unless it stops: its number, when it
begins, and what is done in it. -/
def next? (setup : Setup) (now : Duration) (aborting : Bool) (user : User) :
    Option (ℕ × Duration × Activity) :=
  if user.retired || aborting then none
  else some (user.iteration + 1, now, setup.scenario user.id (user.iteration + 1))

/-- The iteration in which a user goes on after a signal: its number, when it began, and what is
still to be done in it. -/
def resumed? (setup : Setup) (now : Duration) (aborting : Bool) (signal : Signal) (user : User) :
    Option (ℕ × Duration × Activity) :=
  match user.life with
  | .gone _ => none
  | .ready => user.next? setup now aborting
  | .pausing =>
    match signal with
    | .wake => user.next? setup now aborting
    | .reply _ => none
  | .busy began activity =>
    if aborting then none
    else (activity.receive signal).map fun rest => (user.iteration, began, rest)

/-- What is deposited while a user goes on in an iteration. -/
def depositsIn (setup : Setup) (now : Duration) (id : ℕ) (recorder : Recorder Float) :
    ℕ × Duration × Activity → List Deposit
  | (iteration, began, activity) =>
    let (samples, outcome) := activity.emitted setup.plan.tags (setup.clock now) recorder
    (samples.map fun sample => ⟨sample, none⟩) ++
      match outcome with
      | none => []
      | some fault =>
        (setup.closing began now fault).map fun sample => ⟨sample, some (id, iteration)⟩

/-- **What a user deposits on a signal.** -/
def deposits (setup : Setup) (now : Duration) (aborting : Bool) (signal : Signal) (user : User)
    (recorder : Recorder Float) : List Deposit :=
  ((user.resumed? setup now aborting signal).map
    (depositsIn setup now user.id recorder)).getD []

end User

namespace Run

/-- What is deposited in a turn. -/
def depositsOf (setup : Setup) (run : Run) : Turn → List Deposit
  | .happens now (.user id signal) =>
    if run.isOver then []
    else
      ((run.pool.find? id).map fun user =>
        user.deposits setup now run.aborting signal run.journal.recorder).getD []
  | _ => []

/-- What is deposited in some turns from some run on. -/
def depositsFrom (setup : Setup) : Run → List Turn → List Deposit
  | _, [] => []
  | run, turn :: rest => run.depositsOf setup turn ++ depositsFrom setup (run.turn setup turn) rest

/-- **All samples of a run, in their order.** -/
def deposits (setup : Setup) (turns : List Turn) : List Deposit :=
  depositsFrom setup (start setup) turns

theorem depositsFrom_append (setup : Setup) (run : Run) (turns rest : List Turn) :
    depositsFrom setup run (turns ++ rest) =
      depositsFrom setup run turns ++ depositsFrom setup (turns.foldl (turn setup) run) rest := by
  induction turns generalizing run with
  | nil => rfl
  | cons turn turns ih =>
    show _ ++ depositsFrom setup (run.turn setup turn) (turns ++ rest) = _
    rw [ih, ← List.append_assoc]
    rfl

theorem deposits_concat (setup : Setup) (turns : List Turn) (turn : Turn) :
    deposits setup (turns ++ [turn]) =
      deposits setup turns ++ (moment setup turns).depositsOf setup turn := by
  unfold deposits
  rw [depositsFrom_append]
  exact congrArg _ (List.append_nil _)

end Run

/-! ### A user and its signals -/

namespace Activity

/-- How an iteration ended, if it did. -/
def over? : Activity → Option (Option IterationFault)
  | finish fault => some fault
  | _ => none

/-- What an activity emits is what it leaves in the recorder. -/
theorem proceed_emitted (tags : Tags) (clock : Duration) (activity : Activity) (scene : Scene) :
    (activity.proceed tags clock scene).2.recorder =
        scene.recorder.recordAll (activity.emitted tags clock scene.recorder).1 ∧
      (activity.proceed tags clock scene).1.over? =
        (activity.emitted tags clock scene.recorder).2 := by
  induction activity generalizing scene with
  | finish fault => exact ⟨rfl, rfl⟩
  | step name next ih => exact ih { scene with step := some name }
  | note text next ih => exact ih { scene with notes := text :: scene.notes }
  | emit sample next ih =>
    exact ih _ { scene with recorder := (scene.recorder.record (sample.stamp tags clock)).1 }
  | send request next ih => exact ⟨rfl, rfl⟩
  | sleep span next ih => exact ⟨rfl, rfl⟩

end Activity

/-- No entry says that an iteration ended. -/
def Entry.Endless (told : List Entry) : Prop := ∀ entry ∈ told, entry.kind ≠ .ended

/-- All samples are emitted in iterations; none records the end of one. -/
def Deposit.Emitted (deposits : List Deposit) : Prop := ∀ deposit ∈ deposits, deposit.closes = none

namespace Deposit

theorem emitted_map (samples : List (Sample Float)) :
    Emitted (samples.map fun sample => ⟨sample, none⟩) := by
  intro deposit member
  obtain ⟨sample, -, rfl⟩ := List.mem_map.mp member
  rfl

theorem map_sample_map (closes : Option (ℕ × ℕ)) (samples : List (Sample Float)) :
    (samples.map fun sample => (⟨sample, closes⟩ : Deposit)).map sample = samples := by
  rw [List.map_map]
  exact List.map_id _

end Deposit

namespace User

open Entry (Endless)
open Deposit (Emitted emitted_map map_sample_map)

variable {setup : Setup} {now began : Duration} {user : User} {journal : Journal}
  {told : List Entry}

/-- **The user is in an iteration that began at some time**: it was in it before, or the journal has
just been told of its beginning. -/
inductive Inside (user : User) (told : List Entry) : ℕ → Duration → Prop
  | goesOn {began : Duration} {activity : Activity} (busy : user.life = .busy began activity) :
    Inside user told user.iteration began
  | begins {began : Duration} (between : user.life.isBetween = true)
      (begun : .began user.id (user.iteration + 1) began ∈ told) :
    Inside user told (user.iteration + 1) began

theorem Inside.mono {more : List Entry} {iteration : ℕ} (inside : user.Inside told iteration began)
    (contained : told ⊆ more) : user.Inside more iteration began := by
  cases inside with
  | goesOn busy => exact .goesOn busy
  | begins between begun => exact .begins between (contained begun)

/-- **What the journal is told of the end of an iteration and what is deposited for it**: both or
neither. -/
inductive Closes (setup : Setup) (now : Duration) (user : User) : List Entry → List Deposit → Prop
  | goesOn {told : List Entry} {deposits : List Deposit} (endless : Endless told)
      (own : Emitted deposits) : Closes setup now user told deposits
  | ends {told : List Entry} {deposits : List Deposit} (endless : Endless told)
      (own : Emitted deposits) {iteration : ℕ} {began : Duration}
      (inside : user.Inside told iteration began) (step : Option String)
      (fault : Option IterationFault) :
    Closes setup now user (.ended user.id iteration now step fault :: told) (deposits ++
      (setup.closing began now fault).map fun sample => ⟨sample, some (user.id, iteration)⟩)

/-- **A user and a journal after some samples were deposited.** -/
structure Deposited (setup : Setup) (now : Duration) (user : User) (journal : Journal)
    (next : User × Journal) (deposits : List Deposit) : Prop where
  recorder : next.2.recorder = journal.recorder.recordAll (deposits.map Deposit.sample)
  told : ∃ told, next.2.entries = told ++ journal.entries ∧ user.Closes setup now told deposits ∧
    ∀ began activity, next.1.life = .busy began activity → user.Inside told next.1.iteration began

theorem deposited_none {next : User × Journal} (told : List Entry)
    (recorder : next.2.recorder = journal.recorder)
    (entries : next.2.entries = told ++ journal.entries) (endless : Endless told)
    (idle : next.1.life.isBusy = false ∨ next.1 = user) :
    user.Deposited setup now journal next [] := by
  refine ⟨recorder, told, entries, .goesOn endless nofun, fun began activity busy => ?_⟩
  rcases idle with idle | same
  · rw [busy] at idle
    contradiction
  · rw [same] at busy ⊢
    exact .goesOn busy

/-- A user that goes on in an iteration deposits what it emits, and more if the iteration ends. -/
theorem proceed_deposited (user after : User) (journal heard : Journal) (told : List Entry)
    (same : after.id = user.id) (recorder : heard.recorder = journal.recorder)
    (entries : heard.entries = told ++ journal.entries) (endless : Endless told)
    (inside : user.Inside told after.iteration began) (activity : Activity) :
    user.Deposited setup now journal (after.proceed setup now began activity heard)
      (depositsIn setup now user.id journal.recorder (after.iteration, began, activity)) := by
  obtain ⟨left, ends⟩ := activity.proceed_emitted setup.plan.tags (setup.clock now)
    ⟨heard.recorder, after.step, heard.notes⟩
  unfold proceed depositsIn
  generalize activity.proceed setup.plan.tags (setup.clock now)
    ⟨heard.recorder, after.step, heard.notes⟩ = result at left ends
  obtain ⟨next, scene⟩ := result
  dsimp only at left ends recorder ⊢
  rw [recorder] at left ends
  generalize activity.emitted setup.plan.tags (setup.clock now) journal.recorder = emitted
    at left ends
  obtain ⟨samples, outcome⟩ := emitted
  dsimp only at left ends ⊢
  cases next with
  | finish fault =>
    obtain rfl : some fault = outcome := ends
    refine ⟨?_, .ended after.id after.iteration now scene.step fault :: told, ?_, ?_, ?_⟩
    · rw [List.map_append, map_sample_map, map_sample_map]
      show (scene.recorder.recordAll _) = _
      rw [left]
      exact List.foldl_append.symm
    · exact congrArg (List.cons _) entries
    · rw [same]
      exact .ends endless (emitted_map samples) inside scene.step fault
    · intro began activity busy
      revert busy
      show (if setup.plan.sleep.isSome then Life.pausing else .ready) = _ → _
      split_ifs <;> exact nofun
  | send request next =>
    obtain rfl : none = outcome := ends
    rw [List.append_nil]
    refine ⟨?_, .sent after.id request :: told, congrArg (List.cons _) entries, ?_, ?_⟩
    · rw [map_sample_map]
      exact left
    · refine .goesOn (fun entry member => ?_) (emitted_map samples)
      rcases List.mem_cons.mp member with rfl | before
      · exact nofun
      · exact endless entry before
    · intro since rest busy
      obtain ⟨rfl, -⟩ := Life.busy.inj busy
      exact inside.mono (List.subset_cons_self _ _)
  | step | emit | note | sleep =>
    obtain rfl : none = outcome := ends
    rw [List.append_nil]
    refine ⟨?_, told, entries, .goesOn endless (emitted_map samples), ?_⟩
    · rw [map_sample_map]
      exact left
    · intro since rest busy
      obtain ⟨rfl, -⟩ := Life.busy.inj busy
      exact inside

/-- Between two iterations nothing is deposited but in the next one. -/
theorem arrive_deposited (between : user.life.isBetween = true) (aborting : Bool) :
    user.Deposited setup now journal (user.arrive setup now aborting journal)
      (((user.next? setup now aborting).map
        (depositsIn setup now user.id journal.recorder)).getD []) := by
  have leaves : ∀ exit, user.Deposited setup now journal (user.leave exit journal) [] := fun exit =>
    deposited_none [.left user.id exit] rfl rfl (by simp [Endless, Entry.kind]) (.inl rfl)
  unfold arrive next?
  by_cases retired : user.retired = true
  · rw [if_pos retired, retired]
    exact leaves .retired
  · rw [if_neg retired, Bool.eq_false_of_not_eq_true retired]
    by_cases dropping : aborting = true
    · rw [if_pos dropping, dropping]
      exact leaves .aborted
    · rw [if_neg dropping, Bool.eq_false_of_not_eq_true dropping]
      exact proceed_deposited user { user with iteration := user.iteration + 1, step := none }
        journal (journal.add (.began user.id (user.iteration + 1) now)) [.began _ _ now] rfl rfl rfl
        (by simp [Endless, Entry.kind]) (.begins between List.mem_cons_self) _

/-- **On a signal a user deposits its samples.** -/
theorem advance_deposited (aborting : Bool) (signal : Signal) :
    user.Deposited setup now journal (user.advance setup now aborting signal journal)
      (user.deposits setup now aborting signal journal.recorder) := by
  have unchanged : user.Deposited setup now journal (user, journal) [] :=
    deposited_none [] rfl rfl nofun (.inr rfl)
  unfold advance deposits resumed?
  cases life : user.life with
  | gone _ => exact unchanged
  | ready => exact arrive_deposited (congrArg Life.isBetween life) aborting
  | pausing =>
    cases signal with
    | wake => exact arrive_deposited (congrArg Life.isBetween life) aborting
    | reply _ => exact unchanged
  | busy began activity =>
    dsimp only
    by_cases dropping : aborting = true
    · rw [if_pos dropping, if_pos dropping]
      exact deposited_none [.left user.id .aborted, .dropped user.id user.iteration now] rfl rfl
        (by simp [Endless, Entry.kind]) (.inl rfl)
    · rw [if_neg dropping, if_neg dropping]
      cases activity.receive signal with
      | none => exact unchanged
      | some next =>
        cases signal with
        | wake =>
          exact proceed_deposited user user journal journal [] rfl rfl rfl nofun (.goesOn life) next
        | reply reply =>
          exact proceed_deposited user user journal (journal.add (.settled user.id reply))
            [.settled _ reply] rfl rfl rfl (by simp [Endless, Entry.kind]) (.goesOn life) next

/-- The journal knows when an iteration began that the user is in. -/
theorem Inside.begun_mem {old : List Entry} {iteration : ℕ}
    (inside : user.Inside told iteration began)
    (known : ∀ began activity, user.life = .busy began activity →
      Entry.began user.id user.iteration began ∈ old) :
    Entry.began user.id iteration began ∈ told ++ old := by
  cases inside with
  | goesOn busy => exact List.mem_append_right _ (known _ _ busy)
  | begins _ begun => exact List.mem_append_left _ begun

/-- An iteration that the user is in has not ended. -/
theorem Inside.unended {iteration : ℕ} {marks : List Mark}
    (inside : user.Inside told iteration began) (course : Course user.life user.iteration marks) :
    Mark.ended iteration ∉ marks := by
  cases inside with
  | goesOn busy =>
    rw [busy] at course
    obtain ⟨whole, count, rfl⟩ := course.of_busy
    rw [count, List.mem_append, ended_mem_rounds]
    rintro (old | new)
    · omega
    · simp at new
  | begins between _ =>
    rw [course.of_between between, ended_mem_rounds]
    omega

end User

theorem Journal.ended_mem_marks {journal : Journal} {id iteration : ℕ} :
    Mark.ended iteration ∈ journal.marks id ↔
      ∃ time step fault, Entry.ended id iteration time step fault ∈ journal.entries := by
  unfold marks
  rw [List.mem_reverse, List.mem_filterMap]
  constructor
  · rintro ⟨entry, member, said⟩
    unfold Entry.mark? at said
    split at said
    any_goals split_ifs at said with same
    any_goals contradiction
    all_goals cases said
    exact ⟨_, _, _, same ▸ member⟩
  · rintro ⟨time, step, fault, member⟩
    exact ⟨_, member, if_pos rfl⟩

/-- An iteration that has not ended had not ended before. -/
theorem Journal.unended_of_append {journal older : Journal} {told : List Entry} {id iteration : ℕ}
    (entries : journal.entries = told ++ older.entries)
    (unended : Mark.ended iteration ∉ journal.marks id) :
    Mark.ended iteration ∉ older.marks id := by
  intro ended
  obtain ⟨time, step, fault, member⟩ := ended_mem_marks.mp ended
  refine unended (ended_mem_marks.mpr ⟨time, step, fault, ?_⟩)
  rw [entries]
  exact List.mem_append_right _ member

/-! ### Deposits of a run -/

/-- The samples among some deposits that record the end of an iteration. -/
def Deposit.closing (deposits : List Deposit) (id iteration : ℕ) : List (Sample Float) :=
  (deposits.filter fun deposit => deposit.closes = some (id, iteration)).map Deposit.sample

namespace Deposit

theorem closing_append (deposits more : List Deposit) (id iteration : ℕ) :
    closing (deposits ++ more) id iteration =
      closing deposits id iteration ++ closing more id iteration := by
  unfold closing
  rw [List.filter_append, List.map_append]

theorem Emitted.closing {deposits : List Deposit} (own : Emitted deposits) (id iteration : ℕ) :
    closing deposits id iteration = [] := by
  unfold Deposit.closing
  rw [List.map_eq_nil_iff, List.filter_eq_nil_iff]
  intro deposit member
  rw [own deposit member]
  simp

theorem closing_map (samples : List (Sample Float)) (user number id iteration : ℕ) :
    closing (samples.map fun sample => ⟨sample, some (user, number)⟩) id iteration =
      if user = id ∧ number = iteration then samples else [] := by
  unfold closing
  rw [List.filter_map, List.map_map]
  by_cases same : user = id ∧ number = iteration
  · obtain ⟨rfl, rfl⟩ := same
    simp [Function.comp_def]
  · rw [if_neg same]
    simp [Function.comp_def, same]

/-- How many samples that record an end arrive at a metric. -/
def ends (deposits : List Deposit) (metric : String) : ℕ :=
  deposits.countP fun deposit => deposit.closes.isSome && deposit.sample.arrivesAt metric

/-- How many samples that are emitted in iterations arrive at a metric. -/
def emits (deposits : List Deposit) (metric : String) : ℕ :=
  deposits.countP fun deposit => deposit.closes.isNone && deposit.sample.arrivesAt metric

/-- Every sample that arrives records an end or is emitted. -/
theorem countP_arrivesAt (deposits : List Deposit) (metric : String) :
    (deposits.map Deposit.sample).countP (Sample.arrivesAt metric) =
      ends deposits metric + emits deposits metric := by
  induction deposits with
  | nil => rfl
  | cons deposit rest ih =>
    unfold ends emits at ih ⊢
    rw [List.map_cons, List.countP_cons, List.countP_cons, List.countP_cons, ih]
    cases deposit.closes <;> cases deposit.sample.arrivesAt metric <;> simp <;> omega

theorem ends_append (deposits more : List Deposit) (metric : String) :
    ends (deposits ++ more) metric = ends deposits metric + ends more metric :=
  List.countP_append

theorem Emitted.ends {deposits : List Deposit} (own : Emitted deposits) (metric : String) :
    ends deposits metric = 0 := by
  refine List.countP_eq_zero.mpr fun deposit member => ?_
  rw [own deposit member]
  simp

/-- An iteration that ends has one sample at each of its metrics. -/
theorem ends_closing (setup : Setup) (began now : Duration) (fault : Option IterationFault)
    (closes : ℕ × ℕ) {metric : String} (listed : metric ∈ Recorder.endedMetrics) :
    ends ((setup.closing began now fault).map fun sample => ⟨sample, some closes⟩) metric = 1 := by
  have metrics : (setup.closing began now fault).map Sample.metric = Recorder.endedMetrics := rfl
  have once : ∀ metric ∈ Recorder.endedMetrics, Recorder.endedMetrics.count metric = 1 := by decide
  have standard := standard_stamped (standard_iterationSamples (setup.took began now) fault.isSome)
    (setup.clock now) setup.plan.tags
  unfold ends
  rw [List.countP_map, ← once metric listed, ← metrics, List.count, List.countP_map]
  refine List.countP_congr fun sample member => ?_
  show (true && sample.arrivesAt metric) = true ↔ (sample.metric == metric) = true
  rw [(standard sample member).arrivesAt]
  simp

end Deposit

namespace Run

open Deposit (closing Emitted)
open Entry (Endless)

/-- A recorder that got all that was deposited. -/
def recorded (setup : Setup) (deposits : List Deposit) : Recorder Float :=
  (Recorder.new (setup.plan.thresholds.map Threshold.metric)).recordAll
    (deposits.map Deposit.sample)

/-- **What was deposited in a run is what its recorder got, and agrees with the journal.** -/
structure Sampled (setup : Setup) (run : Run) (deposits : List Deposit) : Prop where
  recorder : run.journal.recorder = recorded setup deposits ∨
    run.isOver = true ∧ ∃ time, run.journal.recorder = (recorded setup deposits).close time
  begun : ∀ user ∈ run.pool.users, ∀ began activity, user.life = .busy began activity →
    Entry.began user.id user.iteration began ∈ run.journal.entries
  none : ∀ id iteration, Mark.ended iteration ∉ run.journal.marks id →
    closing deposits id iteration = []
  ended : ∀ id iteration time step fault,
    Entry.ended id iteration time step fault ∈ run.journal.entries →
      ∃ began, Entry.began id iteration began ∈ run.journal.entries ∧
        closing deposits id iteration = setup.closing began time fault
  counted : ∀ metric ∈ Recorder.endedMetrics,
    Deposit.ends deposits metric = run.journal.count .ended

variable {setup : Setup} {run next : Run} {deposits : List Deposit} {now : Duration}

theorem sampled_start (setup : Setup) : (start setup).Sampled setup [] where
  recorder := .inl rfl
  begun _ member := absurd member List.not_mem_nil
  none _ _ _ := rfl
  ended _ _ _ _ _ member := by simp [start, log, Journal.log, Journal.add] at member
  counted _ _ := rfl

theorem count_ended (told : List Entry) (endless : Endless told) :
    told.countP (fun entry => entry.kind = .ended) = 0 :=
  List.countP_eq_zero.mpr fun entry member => by simpa using endless entry member

theorem Endless.ended_mem {told old : List Entry} (endless : Endless told) {id iteration : ℕ}
    {time : Duration} {step : Option String} {fault : Option IterationFault}
    (member : Entry.ended id iteration time step fault ∈ told ++ old) :
    Entry.ended id iteration time step fault ∈ old :=
  (List.mem_append.mp member).resolve_left fun new => endless _ new rfl

/-- Where no iteration ends, samples are only emitted. -/
theorem Sampled.goesOn (sampled : run.Sampled setup deposits) {told : List Entry}
    {more : List Deposit}
    (recorder : next.journal.recorder = recorded setup (deposits ++ more) ∨ next.isOver = true ∧
      ∃ time, next.journal.recorder = (recorded setup (deposits ++ more)).close time)
    (begun : ∀ user ∈ next.pool.users, ∀ began activity, user.life = .busy began activity →
      Entry.began user.id user.iteration began ∈ next.journal.entries)
    (entries : next.journal.entries = told ++ run.journal.entries) (endless : Endless told)
    (own : Emitted more) : next.Sampled setup (deposits ++ more) where
  recorder := recorder
  begun := begun
  none id iteration unended := by
    rw [Deposit.closing_append, own.closing, List.append_nil]
    exact sampled.none id iteration (Journal.unended_of_append entries unended)
  ended id iteration time step fault ended := by
    rw [entries] at ended ⊢
    rw [Deposit.closing_append, own.closing, List.append_nil]
    obtain ⟨began, first, closed⟩ := sampled.ended id iteration time step fault
      (Endless.ended_mem endless ended)
    exact ⟨began, List.mem_append_right _ first, closed⟩
  counted metric listed := by
    rw [Deposit.ends_append, own.ends, sampled.counted metric listed]
    unfold Journal.count
    rw [entries, List.countP_append, count_ended told endless, Nat.zero_add]
    rfl

/-- Where nothing is deposited and no iteration ends, all stays as it was. -/
theorem Sampled.silent (sampled : run.Sampled setup deposits) {told : List Entry}
    (recorder : next.journal.recorder = recorded setup deposits ∨
      next.isOver = true ∧ ∃ time, next.journal.recorder = (recorded setup deposits).close time)
    (entries : next.journal.entries = told ++ run.journal.entries) (endless : Endless told)
    (users : ∀ user ∈ next.pool.users, ∀ began activity, user.life = .busy began activity →
      ∃ old ∈ run.pool.users, old.id = user.id ∧ old.iteration = user.iteration ∧
        old.life = user.life) : next.Sampled setup deposits := by
  have begun : ∀ user ∈ next.pool.users, ∀ began activity, user.life = .busy began activity →
      Entry.began user.id user.iteration began ∈ next.journal.entries := by
    intro user member began activity busy
    obtain ⟨old, inside, same, count, life⟩ := users user member began activity busy
    rw [entries, ← same, ← count]
    exact List.mem_append_right _ (sampled.begun old inside began activity (life.trans busy))
  rw [← List.append_nil deposits] at recorder ⊢
  exact sampled.goesOn recorder begun entries endless nofun

/-- Where an iteration ends that had not ended, its samples are deposited. -/
theorem Sampled.ends (sampled : run.Sampled setup deposits) {id number : ℕ} {since : Duration}
    {told : List Entry} {more : List Deposit} {step : Option String}
    {fault : Option IterationFault}
    (recorder : next.journal.recorder = recorded setup (deposits ++ (more ++
      (setup.closing since now fault).map fun sample => ⟨sample, some (id, number)⟩)))
    (begun : ∀ user ∈ next.pool.users, ∀ began activity, user.life = .busy began activity →
      Entry.began user.id user.iteration began ∈ next.journal.entries)
    (entries : next.journal.entries =
      .ended id number now step fault :: told ++ run.journal.entries)
    (endless : Endless told) (own : Emitted more)
    (opened : Entry.began id number since ∈ told ++ run.journal.entries)
    (unended : Mark.ended number ∉ run.journal.marks id) :
    next.Sampled setup (deposits ++ (more ++
      (setup.closing since now fault).map fun sample => ⟨sample, some (id, number)⟩)) := by
  have split : ∀ other iteration, closing (deposits ++ (more ++
      (setup.closing since now fault).map fun sample => ⟨sample, some (id, number)⟩))
        other iteration = closing deposits other iteration ++
          if id = other ∧ number = iteration then setup.closing since now fault else [] := by
    intro other iteration
    rw [Deposit.closing_append, Deposit.closing_append, own.closing, Deposit.closing_map]
    rfl
  refine ⟨.inl recorder, begun, fun other iteration missing => ?_,
    fun other iteration time name outcome ended => ?_, fun metric listed => ?_⟩
  · have differs : ¬(id = other ∧ number = iteration) := by
      rintro ⟨rfl, rfl⟩
      refine missing (Journal.ended_mem_marks.mpr ⟨now, step, fault, ?_⟩)
      rw [entries]
      exact List.mem_cons_self
    rw [split, if_neg differs, List.append_nil]
    exact sampled.none other iteration (Journal.unended_of_append entries missing)
  · rw [entries] at ended ⊢
    rw [split]
    rcases List.mem_cons.mp ended with new | before
    · obtain ⟨rfl, rfl, rfl, rfl, rfl⟩ := Entry.ended.inj new
      rw [sampled.none _ _ unended, if_pos ⟨rfl, rfl⟩]
      exact ⟨since, List.mem_cons_of_mem _ opened, rfl⟩
    · have old := Endless.ended_mem endless before
      have differs : ¬(id = other ∧ number = iteration) := by
        rintro ⟨rfl, rfl⟩
        exact unended (Journal.ended_mem_marks.mpr ⟨time, name, outcome, old⟩)
      obtain ⟨began, first, closed⟩ := sampled.ended other iteration time name outcome old
      rw [if_neg differs, List.append_nil]
      exact ⟨began, List.mem_cons_of_mem _ (List.mem_append_right _ first), closed⟩
  · rw [Deposit.ends_append, Deposit.ends_append, own.ends,
      Deposit.ends_closing setup since now fault _ listed, sampled.counted metric listed]
    unfold Journal.count
    rw [entries, List.cons_append, List.countP_cons, List.countP_append,
      count_ended _ endless]
    simp [Entry.kind]

/-- The recorder of a run that goes on gets what is deposited. -/
theorem Sampled.recorder_append (sampled : run.Sampled setup deposits)
    (going : run.isOver = false) {more : List Deposit} {recorder : Recorder Float}
    (got : recorder = run.journal.recorder.recordAll (more.map Deposit.sample)) :
    recorder = recorded setup (deposits ++ more) := by
  rcases sampled.recorder with before | ⟨ended, -⟩
  · rw [got, before]
    unfold recorded
    rw [List.map_append]
    exact List.foldl_append.symm
  · exact absurd (going.symm.trans ended) Bool.false_ne_true

/-- **A user that deposits its samples keeps the deposits in agreement with the journal.** -/
theorem Sampled.advance (sampled : run.Sampled setup deposits) (lives : run.Lives)
    (going : run.isOver = false) {user : User} (member : user ∈ run.pool.users)
    {changed : User × Journal} {more : List Deposit} (sameId : changed.1.id = user.id)
    (deposited : user.Deposited setup now run.journal changed more) :
    Sampled setup { run with pool := run.pool.replace changed.1, journal := changed.2 }
      (deposits ++ more) := by
  obtain ⟨recorder, told, entries, closes, inside⟩ := deposited
  have known := sampled.begun user member
  have recorder := sampled.recorder_append going recorder
  have begun : ∀ other ∈ (run.pool.replace changed.1).users, ∀ began activity,
      other.life = .busy began activity →
        Entry.began other.id other.iteration began ∈ changed.2.entries := by
    intro other there began activity busy
    rw [entries]
    obtain ⟨before, old, rfl⟩ := Pool.mem_map there
    by_cases same : before.id = changed.1.id
    · rw [if_pos same] at busy ⊢
      rw [sameId]
      exact (inside began activity busy).begun_mem known
    · rw [if_neg same] at busy ⊢
      exact List.mem_append_right _ (sampled.begun before old began activity busy)
  cases closes with
  | goesOn endless own => exact sampled.goesOn (.inl recorder) begun entries endless own
  | ends endless own opened step fault =>
    exact sampled.ends recorder begun entries endless own (opened.begun_mem known)
      (opened.unended (lives.users user member))

/-! ### Every turn -/

/-- Users that are discarded deposit nothing, and none of their iterations ends. -/
theorem dropAll_silent (users : List User) (journal : Journal) :
    (dropAll now users journal).2.recorder = journal.recorder ∧ ∃ told,
      (dropAll now users journal).2.entries = told ++ journal.entries ∧ Endless told := by
  induction users generalizing journal with
  | nil => exact ⟨rfl, [], rfl, nofun⟩
  | cons user rest ih =>
    have first : (user.discard now journal).2.recorder = journal.recorder ∧ ∃ told,
        (user.discard now journal).2.entries = told ++ journal.entries ∧ Endless told := by
      unfold User.discard
      cases user.life with
      | gone _ => exact ⟨rfl, [], rfl, nofun⟩
      | busy _ _ =>
        exact ⟨rfl, [.left user.id .aborted, .dropped user.id user.iteration now], rfl,
          by simp [Endless, Entry.kind]⟩
      | ready | pausing =>
        exact ⟨rfl, [.left user.id .aborted], rfl, by simp [Endless, Entry.kind]⟩
    obtain ⟨same, told, entries, endless⟩ := first
    obtain ⟨same', told', entries', endless'⟩ := ih (user.discard now journal).2
    rw [dropAll_cons]
    refine ⟨same'.trans same, told' ++ told, ?_, fun entry member => ?_⟩
    · rw [List.append_assoc, ← entries]
      exact entries'
    · rcases List.mem_append.mp member with later | now
      · exact endless' entry later
      · exact endless entry now

/-- Where users stand where they stood, nothing is deposited. -/
theorem Still.sampled (still : run.Still next) (going : run.isOver = false)
    (sampled : run.Sampled setup deposits) : next.Sampled setup deposits := by
  obtain ⟨lines, entries, logs⟩ := still.lines
  have endless : Endless lines := by
    intro line member
    rw [logs line member]
    exact nofun
  refine sampled.silent (.inl ?_) entries endless fun user member began activity busy => ?_
  · rcases sampled.recorder with got | ⟨ended, -⟩
    · exact still.recorder.trans got
    · exact absurd (going.symm.trans ended) Bool.false_ne_true
  · rcases still.pool.users user member with ⟨old, inside, same, -, life, count⟩ | ⟨-, ready, -⟩
    · exact ⟨old, inside, same, count, life⟩
    · exact absurd (ready.symm.trans busy) nofun

/-- A run that is over stays as it is. -/
theorem turn_of_over (ended : run.isOver = true) (turn : Turn) :
    run.turn setup turn = run ∨ run.turn setup turn = run.dropping := by
  cases turn with
  | token => exact .inr rfl
  | happens now happening =>
    left
    show run.step setup now happening = run
    unfold step
    unfold isOver at ended
    cases phase : run.phase with
    | closed | faulted => rfl
    | running | stopping =>
      rw [phase] at ended
      contradiction

theorem depositsOf_of_over (ended : run.isOver = true) (turn : Turn) :
    run.depositsOf setup turn = [] := by
  unfold depositsOf
  split
  · exact if_pos ended
  · rfl

theorem depositsOf_of_silent {turn : Turn} (other : turn.isSignal = false) :
    run.depositsOf setup turn = [] := by
  unfold depositsOf
  split
  · contradiction
  · rfl

theorem depositsOf_of_unheard {id : ℕ} {signal : Signal}
    (absent : run.isOver = true ∨ run.pool.find? id = none) :
    run.depositsOf setup (.happens now (.user id signal)) = [] := by
  unfold depositsOf
  dsimp only
  rcases absent with ended | absent
  · exact if_pos ended
  · rw [absent]
    exact ite_self _

theorem depositsOf_of_found (going : run.isOver = false) {id : ℕ} {signal : Signal} {user : User}
    (found : run.pool.find? id = some user) :
    run.depositsOf setup (.happens now (.user id signal)) =
      user.deposits setup now run.aborting signal run.journal.recorder := by
  unfold depositsOf
  dsimp only
  rw [going, found]
  rfl

theorem Sampled.dropping (sampled : run.Sampled setup deposits) :
    run.dropping.Sampled setup deposits :=
  ⟨sampled.recorder, sampled.begun, sampled.none, sampled.ended, sampled.counted⟩

/-- **A run that is closed has its users dropped and its recorder closed.** -/
theorem Sampled.close (sampled : run.Sampled setup deposits) (lives : run.Lives)
    (going : run.isOver = false) (status : RunStatus) :
    (run.close setup status now).Sampled setup deposits := by
  obtain ⟨same, told, entries, endless⟩ := @dropAll_silent now run.pool.users run.journal
  have nodup := lives.apart.nodup
  rw [Pool.ids_eq] at nodup
  obtain ⟨added, -, -, -, users⟩ := @exists_discarded now run.pool.users nodup run.journal
  refine sampled.silent (.inr ⟨rfl, setup.clock now, ?_⟩) entries endless
    fun user member began activity busy => ?_
  · show Recorder.close (dropAll now run.pool.users run.journal).2.recorder _ = _
    rw [same]
    rcases sampled.recorder with got | ⟨ended, -⟩
    · rw [got]
    · exact absurd (going.symm.trans ended) Bool.false_ne_true
  · have gone := (users user member).1
    rw [User.isGone, busy] at gone
    contradiction

/-- **Every turn keeps the deposits in agreement with the journal.** -/
theorem Sampled.turn (sampled : run.Sampled setup deposits) (lives : run.Lives) (turn : Turn) :
    (run.turn setup turn).Sampled setup (deposits ++ run.depositsOf setup turn) := by
  cases going : run.isOver with
  | true =>
    rw [depositsOf_of_over going, List.append_nil]
    rcases @turn_of_over setup run going turn with same | same
    · rw [same]
      exact sampled
    · rw [same]
      exact sampled.dropping
  | false =>
    have does := does_turn setup run turn
    generalize run.turn setup turn = next at does
    cases does with
    | still other still =>
      rw [depositsOf_of_silent other, List.append_nil]
      exact still.sampled going sampled
    | drops hard still =>
      have other : turn.isSignal = false := by
        cases turn with
        | token => rfl
        | happens now happening =>
          cases happening with
          | user => contradiction
          | _ => rfl
      rw [depositsOf_of_silent other, List.append_nil]
      exact still.sampled going sampled.dropping
    | unheard absent =>
      rw [depositsOf_of_unheard absent, List.append_nil]
      exact sampled
    | @advances now signal user _ found =>
      rw [depositsOf_of_found going found]
      exact sampled.advance lives going (List.mem_of_find?_eq_some found)
        (User.advance_id run.aborting signal) (User.advance_deposited run.aborting signal)
    | closes =>
      rw [depositsOf_of_silent rfl, List.append_nil]
      exact sampled.close lives going _

/-- **At every moment what was deposited is what the recorder got, and agrees with the journal.** -/
theorem sampled_moment (setup : Setup) (turns : List Turn) :
    (moment setup turns).Sampled setup (Run.deposits setup turns) := by
  induction turns using List.reverseRecOn with
  | nil => exact sampled_start setup
  | append_singleton turns turn sampled =>
    rw [moment_concat, deposits_concat]
    exact sampled.turn (lives_moment setup turns) turn

/-- **A metric of iterations counts those that ended**, besides what is emitted to it. -/
theorem Sampled.samplesOf (sampled : run.Sampled setup deposits) {metric : String}
    (listed : metric ∈ Recorder.endedMetrics) : run.journal.recorder.samplesOf metric =
      some (run.journal.count .ended + Deposit.emits deposits metric) := by
  have known : metric ∈ BuiltIn.all.map Prod.fst :=
    (by decide : Recorder.endedMetrics ⊆ BuiltIn.all.map Prod.fst) listed
  have new := (Recorder.counts_new (setup.plan.thresholds.map Threshold.metric)).iterations metric
    listed
  obtain ⟨-, counted⟩ := (Recorder.keeps_new (setup.plan.thresholds.map Threshold.metric)
    known).recordAll (deposits.map Deposit.sample)
  have same : run.journal.recorder.samplesOf metric =
      (recorded setup deposits).samplesOf metric := by
    rcases sampled.recorder with got | ⟨-, time, got⟩
    · rw [got]
    · rw [got]
      rfl
  rw [same]
  unfold recorded
  rw [counted, new, Deposit.countP_arrivesAt, sampled.counted metric listed, Option.map_some,
    Nat.zero_add]

end Run

end LoadTest
