/-
**Users come to their ends in order.**

Whatever happens to a run, in whatever order: each of its users runs one iteration after the other.
An iteration that began ends, however it ends, unless iterations are being dropped; to be retired
does not end it. It is recorded when it ends and only then. A retired user begins no iteration any
more and leaves between two of them. A run that stops can always be closed, and then none of the
users is left that it had, and each of them is counted once.

* `Run.Retiring`: what a retired user may still do;
* `Run.Winding`: a run that stops keeps its users up to its close;
* `Run.Orderly`: all this of a run at some moment;
* `Run.orderly_moment`: every run is orderly at every moment.
-/

import LoadTest.Proofs.Run.Deposits

namespace LoadTest.Run

variable {setup : Setup} {run next : Run} {id count : ℕ} {added : ℕ → List Mark}

/-! ### Dropped iterations -/

/-- What the journal has to say of somebody is said of a user that takes a stride. -/
theorem Shift.exists_stride (shift : run.Shift next added) (apart : run.pool.Apart)
    (said : added id ≠ []) : ∃ old ∈ run.pool.users, old.id = id ∧ ∃ after iteration,
      Stride old.retired run.aborting old.life old.iteration after iteration (added id) := by
  by_cases there : ∃ old ∈ run.pool.users, old.id = id
  · obtain ⟨old, inside, rfl⟩ := there
    rcases shift.gone old inside with ⟨user, member, same⟩ | ⟨-, silent⟩
    · rcases shift.users user member with ⟨before, first, sameId, -, stride⟩ | ⟨new, -⟩
      · obtain rfl := eq_of_id apart inside first (sameId.trans same)
        rw [← same]
        exact ⟨before, inside, same.symm, _, _, stride⟩
      · have below := apart.below old.id (by
          rw [Pool.ids_eq]
          exact List.mem_map_of_mem inside)
        omega
    · exact absurd silent said
  · exact absurd (shift.strange id fun old inside same => there ⟨old, inside, same⟩) said

/-- Iterations are being dropped only after a turn that lets them be dropped. -/
theorem exists_hard_of_aborting (setup : Setup) (turns : List Turn)
    (aborting : (moment setup turns).aborting = true) : ∃ turn ∈ turns, turn.isHard = true := by
  induction turns using List.reverseRecOn with
  | nil => contradiction
  | append_singleton turns turn ih =>
    have before : (moment setup turns).aborting = true →
        ∃ other ∈ turns ++ [turn], other.isHard = true := by
      intro earlier
      obtain ⟨other, member, hard⟩ := ih earlier
      exact ⟨other, List.mem_append_left _ member, hard⟩
    rw [moment_concat] at aborting
    have does := does_turn setup (moment setup turns) turn
    generalize (moment setup turns).turn setup turn = next at does aborting
    cases does with
    | still _ still => exact before (still.aborting.symm.trans aborting)
    | drops hard _ => exact ⟨turn, List.mem_append_right _ List.mem_cons_self, hard⟩
    | unheard _ => exact before aborting
    | advances _ _ => exact before aborting
    | closes _ _ => exact before aborting

/-- **An iteration is dropped only after such a turn.** -/
theorem exists_hard_of_dropped (setup : Setup) (turns : List Turn) {iteration : ℕ}
    (dropped : Mark.dropped iteration ∈ (moment setup turns).journal.marks id) :
    ∃ turn ∈ turns, turn.isHard = true := by
  induction turns using List.reverseRecOn with
  | nil => contradiction
  | append_singleton turns turn ih =>
    have apart := (lives_moment setup turns).apart
    obtain ⟨added, shift⟩ := exists_shift setup apart turn
    have later : ∀ {other}, other ∈ turns → other ∈ turns ++ [turn] := List.mem_append_left _
    rw [moment_concat, shift.marks, List.mem_append] at dropped
    rcases dropped with before | now
    · obtain ⟨other, member, hard⟩ := ih before
      exact ⟨other, later member, hard⟩
    · obtain ⟨old, -, -, after, number, stride⟩ :=
        shift.exists_stride apart (List.ne_nil_of_mem now)
      obtain ⟨other, member, hard⟩ := exists_hard_of_aborting setup turns (stride.of_dropped now)
      exact ⟨other, later member, hard⟩

/-! ### Retired users -/

/-- **What a retired user may still do**: it is in at most so many iterations. -/
structure Retiring (run : Run) (id count : ℕ) : Prop where
  born : id < run.pool.nextId
  users : ∀ user ∈ run.pool.users, user.id = id → user.retired = true ∧ user.isBusy.toNat ≤ count

/-- In a turn a retired user begins no iteration, and those that it ends it is no longer in. -/
theorem Retiring.shift (retiring : run.Retiring id count) (apart : run.pool.Apart)
    (shift : run.Shift next added) : (∀ iteration, Mark.began iteration ∉ added id) ∧
      ∃ left, next.Retiring id left ∧ (added id).countP Mark.isEnd + left = count := by
  have few : (∀ iteration, Mark.began iteration ∉ added id) ∧
      (added id).countP Mark.isEnd ≤ count := by
    by_cases said : added id = []
    · rw [said]
      exact ⟨fun _ => List.not_mem_nil, Nat.zero_le _⟩
    · obtain ⟨old, inside, same, after, iteration, stride⟩ := shift.exists_stride apart said
      obtain ⟨retired, busy⟩ := retiring.users old inside same
      rw [retired] at stride
      obtain ⟨none, most⟩ := stride.of_retired
      refine ⟨none, ?_⟩
      have inIteration : old.life.isBusy.toNat ≤ count := busy
      omega
  obtain ⟨none, most⟩ := few
  refine ⟨none, count - (added id).countP Mark.isEnd, ⟨?_, fun user member same => ?_⟩, by omega⟩
  · exact retiring.born.trans_le shift.nextId
  · rcases shift.users user member with ⟨old, inside, sameId, mark, stride⟩ | ⟨new, -⟩
    · obtain ⟨retired, busy⟩ := retiring.users old inside (sameId.trans same)
      rw [retired] at stride
      have left := stride.of_retired.2
      rw [same] at left
      have before : old.life.isBusy.toNat ≤ count := busy
      refine ⟨mark retired, ?_⟩
      show user.life.isBusy.toNat ≤ _
      omega
    · have born := retiring.born
      omega

/-- **From then on it begins no iteration and ends no more than that.** -/
theorem Retiring.moment {turns : List Turn} (retiring : (moment setup turns).Retiring id count)
    (rest : List Turn) : ∃ added, (Run.moment setup (turns ++ rest)).journal.marks id =
      (Run.moment setup turns).journal.marks id ++ added ∧
        (∀ iteration, Mark.began iteration ∉ added) ∧ added.countP Mark.isEnd ≤ count := by
  induction rest generalizing turns count with
  | nil =>
    rw [List.append_nil]
    exact ⟨[], (List.append_nil _).symm, fun _ => List.not_mem_nil, Nat.zero_le _⟩
  | cons turn rest ih =>
    have apart := (lives_moment setup turns).apart
    obtain ⟨added, shift⟩ := exists_shift setup apart turn
    obtain ⟨none, left, retiring', split⟩ := retiring.shift apart shift
    rw [← moment_concat] at retiring'
    obtain ⟨more, marks, none', most⟩ := ih retiring'
    refine ⟨added id ++ more, ?_, fun iteration began => ?_, ?_⟩
    · rw [← List.append_assoc, ← shift.marks, ← moment_concat, ← marks, List.append_assoc]
      rfl
    · rcases List.mem_append.mp began with now | later
      · exact none iteration now
      · exact none' iteration later
    · rw [List.countP_append]
      omega

/-- **A user leaves retired only if it is, and between two iterations.** -/
theorem exists_retired_of_left (setup : Setup) (turns : List Turn) (turn : Turn)
    (left : Mark.left .retired ∈ (moment setup (turns ++ [turn])).journal.marks id)
    (here : Mark.left .retired ∉ (moment setup turns).journal.marks id) :
    ∃ user ∈ (moment setup turns).pool.users,
      user.id = id ∧ user.retired = true ∧ user.life.isBetween = true := by
  have apart := (lives_moment setup turns).apart
  obtain ⟨added, shift⟩ := exists_shift setup apart turn
  rw [moment_concat, shift.marks, List.mem_append] at left
  have now := left.resolve_left here
  obtain ⟨user, member, same, after, iteration, stride⟩ :=
    shift.exists_stride apart (List.ne_nil_of_mem now)
  exact ⟨user, member, same, stride.of_left now⟩

/-! ### The end of a run -/

/-- Whether users are given time to end their iterations. -/
def isStopping (run : Run) : Bool :=
  match run.phase with
  | .stopping .. => true
  | _ => false

/-- Users that are all gone are counted once each. -/
theorem departures_add {users : List User} (gone : ∀ user ∈ users, user.isGone = true) :
    (departures users).retired + (departures users).aborted = users.length := by
  induction users with
  | nil => rfl
  | cons user rest ih =>
    have others := ih fun other member => gone other (List.mem_cons_of_mem _ member)
    have first := gone user List.mem_cons_self
    unfold departures at others ⊢
    dsimp only at others ⊢
    rw [List.countP_cons, List.countP_cons, List.length_cons, ← others]
    unfold User.isGone at first
    cases life : user.life with
    | gone exit =>
      cases exit with
      | retired =>
        simp
        omega
      | aborted =>
        simp
        omega
    | ready | busy _ _ | pausing =>
      rw [life] at first
      contradiction

/-- **A run that stops keeps so many users, up to its close**: then all are gone, and counted. -/
def Winding (size : ℕ) (run : Run) : Prop :=
  match run.phase with
  | .stopping .. => run.pool.size = size
  | .closed _ departures => (∀ user ∈ run.pool.users, user.isGone = true) ∧
    departures.retired + departures.aborted = size
  | _ => False

theorem winding_close {size : ℕ} (apart : run.pool.Apart) (same : run.pool.size = size)
    (status : RunStatus) (now : Duration) : Winding size (run.close setup status now) := by
  have nodup := apart.nodup
  rw [Pool.ids_eq] at nodup
  obtain ⟨added, -, -, -, users⟩ := @exists_discarded now run.pool.users nodup run.journal
  have gone : ∀ user ∈ (dropAll now run.pool.users run.journal).1, user.isGone = true :=
    fun user member => (users user member).1
  refine ⟨gone, (departures_add gone).trans ?_⟩
  exact (length_dropAll now run.pool.users run.journal).trans same

theorem advance_still (run : Run) (now : Duration) (id : ℕ) (signal : Signal) :
    (run.advance setup now id signal).phase = run.phase ∧
      (run.advance setup now id signal).pool.size = run.pool.size := by
  unfold advance
  cases run.pool.find? id with
  | none => exact ⟨rfl, rfl⟩
  | some user =>
    refine ⟨rfl, ?_⟩
    unfold Pool.size Pool.replace
    rw [Pool.users_map, List.length_map]

/-- When the time to end iterations is over, users stay, and a run can be closed. -/
theorem graceOver_still (run : Run) :
    (run.graceOver setup).phase = run.phase ∧ (run.graceOver setup).pool = run.pool ∧
      ((run.graceOver setup).pool.isQuiet || (run.graceOver setup).aborting) = true := by
  unfold graceOver
  dsimp only
  split
  · rename_i done
    refine ⟨rfl, rfl, ?_⟩
    rcases Bool.or_eq_true _ _ |>.mp done with nobody | dropping
    · have gone : run.pool.isQuiet = true := by
        refine List.all_eq_true.mpr fun user member => ?_
        have none := List.eq_nil_of_length_eq_zero (of_decide_eq_true nobody)
        simpa using List.filter_eq_nil_iff.mp none user member
      rw [gone]
      rfl
    · rw [dropping]
      exact Bool.or_true _
  · split <;> exact ⟨rfl, rfl, Bool.or_true _⟩

/-- Whatever happens to a run that stops, it keeps its users up to its close. -/
theorem Winding.turn {size : ℕ} (winding : Winding size run) (apart : run.pool.Apart)
    (turn : Turn) : Winding size (run.turn setup turn) := by
  cases turn with
  | token => exact winding
  | happens now happening =>
    show Winding size (run.step setup now happening)
    cases phase : run.phase with
    | running | faulted =>
      unfold Winding at winding
      rw [phase] at winding
      contradiction
    | closed result departures =>
      unfold step
      rw [phase]
      exact winding
    | stopping status since =>
      have same : run.pool.size = size := by
        unfold Winding at winding
        rw [phase] at winding
        exact winding
      have stays : ∀ {next : Run}, next.phase = run.phase → next.pool.size = run.pool.size →
          Winding size next := by
        intro next phase' size'
        unfold Winding
        rw [phase', phase]
        exact size'.trans same
      unfold step
      rw [phase]
      cases happening with
      | user id signal =>
        obtain ⟨phase', size'⟩ := @advance_still setup run now id signal
        exact stays phase' size'
      | graceOver =>
        obtain ⟨phase', pool', -⟩ := @graceOver_still setup run
        exact stays phase' (congrArg Pool.size pool')
      | abort => exact same
      | close =>
        dsimp only
        split
        · exact winding_close apart same status now
        · exact winding
      | tick | cancel | deadline | watch => exact winding

theorem Winding.moment {size : ℕ} {turns : List Turn} (winding : Winding size (moment setup turns))
    (rest : List Turn) : Winding size (Run.moment setup (turns ++ rest)) := by
  induction rest using List.reverseRecOn with
  | nil =>
    rw [List.append_nil]
    exact winding
  | append_singleton rest turn ih =>
    rw [← List.append_assoc, moment_concat]
    exact ih.turn (lives_moment setup (turns ++ rest)).apart turn

/-- **A run that stops is closed when the time to end iterations is over.** -/
theorem isClosed_of_graceOver (stopping : run.isStopping = true) (late now : Duration) :
    ((run.step setup late .graceOver).step setup now .close).isClosed = true := by
  unfold isStopping at stopping
  cases phase : run.phase with
  | running | closed | faulted =>
    rw [phase] at stopping
    contradiction
  | stopping status since =>
    have next : run.step setup late .graceOver = run.graceOver setup := by
      unfold step
      rw [phase]
    obtain ⟨phase', -, done⟩ := @graceOver_still setup run
    rw [next]
    unfold step
    rw [phase', phase]
    dsimp only
    rw [if_pos done]
    rfl

/-! ### All together -/

/-- **All this of a run at some moment**, whatever is to come. -/
structure Orderly (setup : Setup) (turns : List Turn) : Prop where
  /-- A user begins its iterations one after the other, numbered from one on: all but the last one
  ended, which may be going on or dropped with the user. -/
  rounds : ∀ id, ∃ whole rest,
    (moment setup turns).journal.marks id = LoadTest.rounds whole ++ rest ∧ Remainder whole rest
  /-- What the journal says of a user goes with where it stands. -/
  courses : ∀ user ∈ (moment setup turns).pool.users,
    Course user.life user.iteration ((moment setup turns).journal.marks user.id)
  /-- An iteration is dropped only once iterations are to be dropped. -/
  dropped : ∀ id iteration, Mark.dropped iteration ∈ (moment setup turns).journal.marks id →
    ∃ turn ∈ turns, turn.isHard = true
  /-- A retired user begins no iteration any more, and ends no more than the one that it is in. -/
  retired : ∀ user ∈ (moment setup turns).pool.users, user.retired = true → ∀ rest, ∃ added,
    (moment setup (turns ++ rest)).journal.marks user.id =
      (moment setup turns).journal.marks user.id ++ added ∧
        (∀ iteration, Mark.began iteration ∉ added) ∧
          added.countP Mark.isEnd ≤ user.isBusy.toNat
  /-- A user that leaves retired was retired and between two iterations. -/
  leaves : ∀ turn id, Mark.left .retired ∉ (moment setup turns).journal.marks id →
    Mark.left .retired ∈ (moment setup (turns ++ [turn])).journal.marks id →
      ∃ user ∈ (moment setup turns).pool.users,
        user.id = id ∧ user.retired = true ∧ user.life.isBetween = true
  /-- The samples of an iteration are deposited if and only if it ended, and they are those of its
  end. -/
  samples : (moment setup turns).Sampled setup (deposits setup turns)
  /-- The recorder has them at the metrics of iterations, besides what is emitted to these. -/
  counted : ∀ metric ∈ Recorder.endedMetrics,
    (moment setup turns).journal.recorder.samplesOf metric =
      some ((moment setup turns).journal.count .ended +
        Deposit.emits (deposits setup turns) metric)
  /-- A run that stops can be closed when the time to end iterations is over. -/
  closes : (moment setup turns).isStopping = true → ∀ late now,
    (moment setup (turns ++ [.happens late .graceOver, .happens now .close])).isClosed = true
  /-- When it is closed, all users are gone that it had when it stopped, and each is counted. -/
  departs : (moment setup turns).isStopping = true → ∀ rest result departures,
    (moment setup (turns ++ rest)).phase = .closed result departures →
      (∀ user ∈ (moment setup (turns ++ rest)).pool.users, user.isGone = true) ∧
        departures.retired + departures.aborted = (moment setup turns).pool.size

/-- **Every run is orderly at every moment.** -/
theorem orderly_moment (setup : Setup) (turns : List Turn) : Orderly setup turns where
  rounds := (lives_moment setup turns).exists_rounds
  courses := (lives_moment setup turns).users
  dropped _ _ := exists_hard_of_dropped setup turns
  retired user member retired rest := by
    have lives := lives_moment setup turns
    have retiring : (moment setup turns).Retiring user.id user.isBusy.toNat := by
      refine ⟨lives.apart.below _ ?_, fun other inside same => ?_⟩
      · rw [Pool.ids_eq]
        exact List.mem_map_of_mem member
      · obtain rfl := eq_of_id lives.apart member inside same
        exact ⟨retired, le_rfl⟩
    exact retiring.moment rest
  leaves turn _ here left := exists_retired_of_left setup turns turn left here
  samples := sampled_moment setup turns
  counted _ listed := (sampled_moment setup turns).samplesOf listed
  closes stopping late now := by
    rw [List.append_cons, moment_concat, moment_concat]
    exact isClosed_of_graceOver stopping late now
  departs stopping rest result departures closed := by
    have winding : Winding (moment setup turns).pool.size (moment setup turns) := by
      unfold isStopping at stopping
      unfold Winding
      cases phase : (moment setup turns).phase with
      | stopping status since => rfl
      | running | closed | faulted =>
        rw [phase] at stopping
        contradiction
    have stays := winding.moment rest
    unfold Winding at stays
    rw [closed] at stays
    exact stays

/-- Two users of which one ends its first iteration after it was retired; the other one is still in
it when the run is closed. -/
example : departures ((moment visiting
    ([(.zero, .tick), (.ofMillis 1, .user 1 .wake), (.ofMillis 2, .user 2 .wake),
      (.ofMillis 3, .cancel), (.ofMillis 4, .user 1 (.reply (.response 200 [] [] (.ofMillis 2)))),
      (.ofMillis 5, .user 1 .wake), (.ofMillis 6, .graceOver), (.ofMillis 7, .close)].map
        fun next => .happens next.1 next.2)).pool.users) = ⟨1, 1⟩ := by
  decide +kernel

end LoadTest.Run
