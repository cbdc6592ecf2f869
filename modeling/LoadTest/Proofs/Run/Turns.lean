/-
**Turns of a run.**

What happens to a run one thing after the other are its turns. The token that drops iterations is
one of them: users see it whether or not the run has looked at it yet. Whatever a turn does to the
pool, it leaves every user where it stands, lets users take a stride, adds users that have not
begun, or takes away users that are gone. So at every moment the journal says of every user what
its course is.

* `Run.moment`: a run after some turns;
* `Pool.Kept`: users stand where they stood;
* `Run.Shift`: all that a turn can do to the users;
* `Run.does_turn`: every turn does one of a few things;
* `Run.exists_shift`: every turn is a shift;
* `Run.lives_moment`: at every moment users have their courses.
-/

import LoadTest.Proofs.Run.Rounds

namespace LoadTest

/-! ### Users that stand where they stood -/

namespace Pool

variable {before middle after pool : Pool}

/-- **Users stand where they stood**, but for those that are new or gone. None is active again. -/
structure Kept (before after : Pool) : Prop where
  nextId : before.nextId ≤ after.nextId
  apart : before.Apart → after.Apart
  users : ∀ user ∈ after.users,
    (∃ old ∈ before.users, old.id = user.id ∧ (old.retired = true → user.retired = true) ∧
      old.life = user.life ∧ old.iteration = user.iteration) ∨
    before.nextId ≤ user.id ∧ user.life = .ready ∧ user.iteration = 0
  gone : ∀ old ∈ before.users,
    (∃ user ∈ after.users, user.id = old.id ∧ user.life = old.life) ∨ old.isGone = true

theorem Kept.refl (pool : Pool) : pool.Kept pool where
  nextId := le_rfl
  apart := id
  users user member := .inl ⟨user, member, rfl, id, rfl, rfl⟩
  gone old member := .inl ⟨old, member, rfl, rfl⟩

theorem Kept.trans (first : before.Kept middle) (second : middle.Kept after) :
    before.Kept after where
  nextId := first.nextId.trans second.nextId
  apart := second.apart ∘ first.apart
  users user member := by
    rcases second.users user member with ⟨old, inside, same, mark, life, count⟩ | ⟨new, fresh⟩
    · rcases first.users old inside with ⟨older, there, same', mark', life', count'⟩ | ⟨new, fresh⟩
      · exact .inl ⟨older, there, same'.trans same, mark ∘ mark', life'.trans life,
          count'.trans count⟩
      · exact .inr ⟨same ▸ new, life.symm.trans fresh.1, count.symm.trans fresh.2⟩
    · exact .inr ⟨first.nextId.trans new, fresh⟩
  gone old member := by
    rcases first.gone old member with ⟨user, inside, same, life⟩ | gone
    · rcases second.gone user inside with ⟨later, there, same', life'⟩ | gone
      · exact .inl ⟨later, there, same'.trans same, life'.trans life⟩
      · exact .inr ((congrArg Life.isGone life).symm.trans gone)
    · exact .inr gone

theorem kept_reap (pool : Pool) : pool.Kept pool.reap where
  nextId := le_rfl
  apart apart := apart.reap
  users user member := .inl ⟨user, mem_reap member, rfl, id, rfl, rfl⟩
  gone old member := by
    cases gone : old.isGone with
    | true => exact .inr rfl
    | false =>
      refine .inl ⟨old, ?_, rfl, rfl⟩
      rw [users_reap]
      exact List.mem_filter.mpr ⟨member, by rw [gone]; rfl⟩

theorem kept_retireAll (pool : Pool) : pool.Kept pool.retireAll where
  nextId := le_rfl
  apart apart := apart.map fun _ => rfl
  users user member := by
    obtain ⟨old, inside, rfl⟩ := mem_map member
    exact .inl ⟨old, inside, rfl, fun _ => rfl, rfl, rfl⟩
  gone old member := by
    refine .inl ⟨old.retire, ?_, rfl, rfl⟩
    unfold retireAll
    rw [users_map]
    exact List.mem_map_of_mem member

theorem kept_shrink (pool : Pool) (target : ℕ) : pool.Kept (pool.shrink target) where
  nextId := le_rfl
  apart apart := apart.shrink target
  users user member := by
    rcases List.mem_append.mp ((pool.shrink_perm target).subset member) with among | old
    · rcases List.mem_append.mp among with stays | leaves
      · exact .inl ⟨user, List.mem_append_left _ (List.mem_of_mem_take stays), rfl, id, rfl, rfl⟩
      · obtain ⟨old, inside, rfl⟩ := List.mem_map.mp leaves
        exact .inl ⟨old, List.mem_append_left _ (List.mem_of_mem_drop inside), rfl, fun _ => rfl,
          rfl, rfl⟩
    · exact .inl ⟨user, List.mem_append_right _ old, rfl, id, rfl, rfl⟩
  gone old member := by
    have stands := (pool.shrink_perm target).symm.subset
    rcases List.mem_append.mp member with active | draining
    · rw [← List.take_append_drop target pool.active] at active
      rcases List.mem_append.mp active with stays | leaves
      · exact .inl ⟨old, stands (List.mem_append_left _ (List.mem_append_left _ stays)), rfl, rfl⟩
      · exact .inl ⟨old.retire, stands (List.mem_append_left _
          (List.mem_append_right _ (List.mem_map_of_mem leaves))), rfl, rfl⟩
    · exact .inl ⟨old, stands (List.mem_append_right _ draining), rfl, rfl⟩

theorem kept_grow (pool : Pool) (now : Duration) (count : ℕ) : pool.Kept (pool.grow now count) where
  nextId := Nat.le_add_right _ _
  apart apart := apart.grow now count
  users user member := by
    rcases List.mem_append.mp member with active | draining
    · rcases List.mem_append.mp active with old | new
      · exact .inl ⟨user, List.mem_append_left _ old, rfl, id, rfl, rfl⟩
      · obtain ⟨number, listed, rfl⟩ := List.mem_map.mp new
        exact .inr ⟨(List.mem_range'_1.mp listed).1, rfl, rfl⟩
    · exact .inl ⟨user, List.mem_append_right _ draining, rfl, id, rfl, rfl⟩
  gone old member := by
    refine .inl ⟨old, ?_, rfl, rfl⟩
    rcases List.mem_append.mp member with active | draining
    · exact List.mem_append_left _ (List.mem_append_left _ active)
    · exact List.mem_append_right _ draining

theorem Kept.notePeak (kept : before.Kept after) : before.Kept after.notePeak :=
  ⟨kept.nextId, fun apart => ⟨(kept.apart apart).nodup, (kept.apart apart).below⟩, kept.users,
    kept.gone⟩

theorem kept_setTarget {now : Duration} {cap target : ℕ}
    (told : pool.setTarget now cap target = .ok after) : pool.Kept after := by
  unfold setTarget at told
  split_ifs at told
  · obtain rfl := Except.ok.inj told
    exact .refl pool
  · obtain rfl := Except.ok.inj told
    exact (pool.kept_shrink target).notePeak
  · obtain rfl := Except.ok.inj told
    exact (pool.kept_grow now _).notePeak

end Pool

/-! ### Turns -/

/-- What comes next in a run. -/
inductive Turn where
  | happens (now : Duration) (happening : Happening)
  /-- The token that drops iterations is cancelled; the run has not looked at it yet. -/
  | token

namespace Turn

/-- Whether the turn lets iterations be dropped from then on: the token, the run being told so, or
the end of the time that iterations were given. -/
def isHard : Turn → Bool
  | token | happens _ .abort | happens _ .graceOver => true
  | _ => false

/-- Whether a user gets a signal. -/
def isSignal : Turn → Bool
  | happens _ (.user ..) => true
  | _ => false

end Turn

namespace Run

/-- The run after a turn. -/
def turn (setup : Setup) (run : Run) : Turn → Run
  | .happens now happening => run.step setup now happening
  | .token => { run with aborting := true }

/-- **The run of a setup after some turns.** -/
def moment (setup : Setup) (turns : List Turn) : Run := turns.foldl (turn setup) (Run.start setup)

theorem moment_concat (setup : Setup) (turns : List Turn) (turn : Turn) :
    moment setup (turns ++ [turn]) = (moment setup turns).turn setup turn :=
  List.foldl_concat ..

/-- Where the run looks at the token at once, its turns are what happens to it. -/
theorem moment_happens (setup : Setup) (happenings : List (Duration × Happening)) :
    moment setup (happenings.map fun next => .happens next.1 next.2) =
      (Run.start setup).follow setup happenings :=
  List.foldl_map

/-! ### Shifts -/

/-- **All that a turn can do to the users of a run**, and what the journal has to say of it. -/
structure Shift (run next : Run) (added : ℕ → List Mark) : Prop where
  nextId : run.pool.nextId ≤ next.pool.nextId
  apart : next.pool.Apart
  marks : ∀ id, next.journal.marks id = run.journal.marks id ++ added id
  users : ∀ user ∈ next.pool.users,
    (∃ old ∈ run.pool.users, old.id = user.id ∧ (old.retired = true → user.retired = true) ∧
      Stride old.retired run.aborting old.life old.iteration user.life user.iteration
        (added user.id)) ∨
    run.pool.nextId ≤ user.id ∧ user.life = .ready ∧ user.iteration = 0
  strange : ∀ id, (∀ user ∈ run.pool.users, user.id ≠ id) → added id = []
  gone : ∀ old ∈ run.pool.users,
    (∃ user ∈ next.pool.users, user.id = old.id) ∨ old.isGone = true ∧ added old.id = []

variable {setup : Setup} {run next : Run} {now : Duration} {turn : Turn}

/-- Users that stand where they stood are a shift. -/
theorem shift_of_kept (apart : run.pool.Apart) (kept : run.pool.Kept next.pool)
    (marks : ∀ id, next.journal.marks id = run.journal.marks id) : run.Shift next fun _ => [] where
  nextId := kept.nextId
  apart := kept.apart apart
  marks id := (marks id).trans (List.append_nil _).symm
  users user member := by
    rcases kept.users user member with ⟨old, inside, same, mark, life, count⟩ | fresh
    · rw [← life, ← count]
      exact .inl ⟨old, inside, same, mark, .stays _ _⟩
    · exact .inr fresh
  strange _ _ := rfl
  gone old member := by
    rcases kept.gone old member with ⟨user, inside, same, -⟩ | gone
    · exact .inl ⟨user, inside, same⟩
    · exact .inr ⟨gone, rfl⟩

theorem eq_of_id (apart : run.pool.Apart) {user other : User} (member : user ∈ run.pool.users)
    (inside : other ∈ run.pool.users) (same : other.id = user.id) : other = user := by
  have nodup := apart.nodup
  rw [Pool.ids_eq] at nodup
  exact List.inj_on_of_nodup_map nodup inside member same

/-- A user that takes a stride is a shift. -/
theorem shift_of_strides (apart : run.pool.Apart) {user : User} (member : user ∈ run.pool.users)
    {changed : User × Journal} {marks : List Mark}
    (strides : user.Strides run.aborting run.journal changed marks) :
    run.Shift { run with pool := run.pool.replace changed.1, journal := changed.2 }
      fun id => if id = user.id then marks else [] where
  nextId := le_rfl
  apart := apart.replace _
  marks id := by
    by_cases same : id = user.id
    · rw [if_pos same, same]
      exact strides.marks
    · rw [if_neg same, List.append_nil]
      exact strides.others id same
  users other inside := by
    left
    obtain ⟨old, before, rfl⟩ := Pool.mem_map inside
    by_cases same : old.id = changed.1.id
    · obtain rfl := eq_of_id apart member before (same.trans strides.id)
      rw [if_pos same, if_pos strides.id]
      exact ⟨old, before, same, fun mark => strides.retired.trans mark, strides.stride⟩
    · have differs : old.id ≠ user.id := fun equal => same (equal.trans strides.id.symm)
      rw [if_neg same, if_neg differs]
      exact ⟨old, before, rfl, id, .stays _ _⟩
  strange id absent := if_neg fun same => absent user member same.symm
  gone old inside := by
    left
    refine ⟨_, (Pool.users_map _ run.pool) ▸ List.mem_map_of_mem inside, ?_⟩
    by_cases same : old.id = changed.1.id
    · rw [if_pos same]
      exact same.symm
    · rw [if_neg same]

/-! ### The close -/

/-- **Users that are discarded**, one after the other: each takes a stride to its end. -/
structure Discarded (users : List User) (journal : Journal) (next : List User × Journal)
    (added : ℕ → List Mark) : Prop where
  ids : next.1.map User.id = users.map User.id
  marks : ∀ id, next.2.marks id = journal.marks id ++ added id
  strange : ∀ id, (∀ user ∈ users, user.id ≠ id) → added id = []
  users : ∀ user ∈ next.1, user.isGone = true ∧ ∃ old ∈ users, old.id = user.id ∧
    user.retired = old.retired ∧
      Stride old.retired true old.life old.iteration user.life user.iteration (added user.id)

theorem dropAll_cons (user : User) (rest : List User) (journal : Journal) :
    dropAll now (user :: rest) journal =
      ((user.discard now journal).1 :: (dropAll now rest (user.discard now journal).2).1,
        (dropAll now rest (user.discard now journal).2).2) := rfl

theorem length_dropAll (now : Duration) (users : List User) (journal : Journal) :
    (dropAll now users journal).1.length = users.length := by
  induction users generalizing journal with
  | nil => rfl
  | cons user rest ih =>
    rw [dropAll_cons, List.length_cons, List.length_cons, ih]

theorem exists_discarded {users : List User} (nodup : (users.map User.id).Nodup)
    (journal : Journal) : ∃ added, Discarded users journal (dropAll now users journal) added := by
  induction users generalizing journal with
  | nil => exact ⟨fun _ => [], rfl, fun _ => (List.append_nil _).symm, fun _ _ => rfl, nofun⟩
  | cons user rest ih =>
    obtain ⟨fresh, nodup⟩ := List.nodup_cons.mp nodup
    obtain ⟨marks, strides⟩ := @User.discard_strides now user journal
    obtain ⟨more, ids, told, strange, later⟩ := ih nodup (user.discard now journal).2
    -- Nobody behind the first user has its number, so no more is said of it.
    have silent : more user.id = [] :=
      strange user.id fun other inside same => fresh (same ▸ List.mem_map_of_mem inside)
    rw [dropAll_cons]
    refine ⟨fun id => if id = user.id then marks else more id, ?_, fun id => ?_, ?_, ?_⟩
    · exact congrArg₂ List.cons strides.id ids
    · refine (told id).trans ?_
      by_cases same : id = user.id
      · rw [if_pos same, same, silent, List.append_nil]
        exact strides.marks
      · rw [if_neg same, strides.others id same]
    · intro id absent
      rw [if_neg fun same => absent user List.mem_cons_self same.symm]
      exact strange id fun other inside => absent other (List.mem_cons_of_mem _ inside)
    · intro other inside
      rcases List.mem_cons.mp inside with rfl | behind
      · rw [if_pos strides.id]
        exact ⟨User.discard_isGone, user, List.mem_cons_self, strides.id.symm, strides.retired,
          strides.stride⟩
      · obtain ⟨gone, old, there, same, mark, stride⟩ := later other behind
        have differs : other.id ≠ user.id := fun equal =>
          fresh (equal ▸ same ▸ List.mem_map_of_mem there)
        rw [if_neg differs]
        exact ⟨gone, old, List.mem_cons_of_mem _ there, same, mark, stride⟩

/-- A run is closed only when its users are gone or iterations are being dropped, so the strides to
the ends are what users can do then. -/
theorem exists_shift_close (apart : run.pool.Apart)
    (ended : (run.pool.isQuiet || run.aborting) = true)
    (status : RunStatus) : ∃ added, run.Shift (run.close setup status now) added := by
  have nodup := apart.nodup
  rw [Pool.ids_eq] at nodup
  obtain ⟨added, ids, told, strange, users⟩ :=
    @exists_discarded now run.pool.users nodup run.journal
  have sameIds : (run.close setup status now).pool.ids = run.pool.ids := by
    rw [Pool.ids_eq, Pool.ids_eq]
    exact ids
  refine ⟨added, le_rfl, ?_, told, fun user inside => .inl ?_, strange, fun old inside => .inl ?_⟩
  · constructor
    · rw [sameIds]
      exact apart.nodup
    · rw [sameIds]
      exact apart.below
  · obtain ⟨-, old, before, same, mark, stride⟩ := users user inside
    refine ⟨old, before, same, fun marked => mark.trans marked, ?_⟩
    rcases Bool.or_eq_true _ _ |>.mp ended with quiet | dropping
    · exact stride.of_gone (List.all_eq_true.mp quiet old before)
    · rw [dropping]
      exact stride
  · have there : old.id ∈ (dropAll now run.pool.users run.journal).1.map User.id := by
      rw [ids]
      exact List.mem_map_of_mem inside
    exact List.mem_map.mp there

/-! ### What a turn does -/

/-- **Users stand where they stood**, nothing is recorded, and the journal gets no more than lines
of the log. Iterations are dropped no more and no less than before. -/
structure Still (run next : Run) : Prop where
  pool : run.pool.Kept next.pool
  recorder : next.journal.recorder = run.journal.recorder
  lines : ∃ lines : List Entry, next.journal.entries = lines ++ run.journal.entries ∧
    ∀ line ∈ lines, line.kind = .log
  aborting : next.aborting = run.aborting

theorem Still.refl (run : Run) : run.Still run := ⟨.refl _, rfl, ⟨[], rfl, nofun⟩, rfl⟩

theorem Still.stop (still : run.Still next) (status : RunStatus) :
    run.Still (next.stop status now) :=
  ⟨still.pool.trans next.pool.kept_retireAll, still.recorder, still.lines, still.aborting⟩

theorem Still.log (still : run.Still next) (level : Level) (message : String) :
    run.Still (next.log level message) := by
  obtain ⟨lines, told, logs⟩ := still.lines
  refine ⟨still.pool, still.recorder, ⟨.log level message :: lines, ?_, ?_⟩, still.aborting⟩
  · exact congrArg (List.cons _) told
  · intro line member
    rcases List.mem_cons.mp member with rfl | before
    · rfl
    · exact logs line before

theorem still_announce (schedule : Schedule) : run.Still (run.announce schedule now) := by
  unfold announce
  dsimp only
  split
  · exact .refl run
  · split
    · obtain ⟨pool, recorder, lines, aborting⟩ := (Still.refl run).log .info ‹_›
      exact ⟨pool, recorder, lines, aborting⟩
    · exact ⟨.refl _, rfl, ⟨[], rfl, nofun⟩, rfl⟩

theorem still_tick : run.Still (run.tick setup now) := by
  have announced : run.Still (run.announce setup.plan.schedule now) := still_announce _
  unfold tick
  dsimp only
  generalize run.announce setup.plan.schedule now = next at announced
  obtain ⟨pool, recorder, lines, aborting⟩ := announced
  have reaped : run.Still { next with pool := next.pool.reap } :=
    ⟨pool.trans next.pool.kept_reap, recorder, lines, aborting⟩
  split
  · exact reaped.stop .completed
  · cases told : next.pool.reap.setTarget now setup.plan.maxUsers (setup.usersAt now) with
    | error fault => exact ⟨reaped.pool, recorder, lines, aborting⟩
    | ok pool => exact ⟨reaped.pool.trans (Pool.kept_setTarget told), recorder, lines, aborting⟩

theorem still_watch : run.Still (run.watch setup now) := by
  unfold watch
  cases run.journal.recorder.breach? setup.plan.thresholds (setup.clock now) with
  | none => exact .refl run
  | some breach => exact ((Still.refl run).log _ _).stop _

/-- Whether the run is over, with a result or a fault. -/
def isOver (run : Run) : Bool :=
  match run.phase with
  | .closed .. | .faulted _ => true
  | _ => false

/-- The run, in which iterations are dropped from now on. -/
def dropping (run : Run) : Run := { run with aborting := true }

/-- **All that a turn can do to a run.** -/
inductive Does (setup : Setup) (run : Run) : Turn → Run → Prop
  | still {turn : Turn} {next : Run} (silent : turn.isSignal = false) (still : run.Still next) :
    Does setup run turn next
  | drops {turn : Turn} {next : Run} (hard : turn.isHard = true) (still : run.dropping.Still next) :
    Does setup run turn next
  | unheard {now : Duration} {id : ℕ} {signal : Signal}
      (absent : run.isOver = true ∨ run.pool.find? id = none) :
    Does setup run (.happens now (.user id signal)) run
  | advances {now : Duration} {signal : Signal} {user : User} (going : run.isOver = false)
      (found : run.pool.find? user.id = some user) :
    Does setup run (.happens now (.user user.id signal)) { run with
      pool := run.pool.replace (user.advance setup now run.aborting signal run.journal).1
      journal := (user.advance setup now run.aborting signal run.journal).2 }
  | closes {now since : Duration} {status : RunStatus}
      (stopping : run.phase = .stopping status since)
      (ended : (run.pool.isQuiet || run.aborting) = true) :
    Does setup run (.happens now .close) (run.close setup status now)

theorem does_advance (going : run.isOver = false) (id : ℕ) (signal : Signal) :
    Does setup run (.happens now (.user id signal)) (run.advance setup now id signal) := by
  unfold advance
  cases found : run.pool.find? id with
  | none => exact .unheard (.inr found)
  | some user =>
    have numbered := List.find?_some found
    obtain rfl : user.id = id := of_decide_eq_true numbered
    exact .advances going found

theorem does_graceOver : Does setup run (.happens now .graceOver) (run.graceOver setup) := by
  unfold graceOver
  dsimp only
  split
  · exact .still rfl (.refl run)
  · split
    · exact .drops rfl (.refl run.dropping)
    · exact .drops rfl ((Still.refl run.dropping).log _ _)

/-- **Every turn does one of these things.** -/
theorem does_turn (setup : Setup) (run : Run) (turn : Turn) :
    Does setup run turn (run.turn setup turn) := by
  have unchanged : run.Still run := .refl run
  cases turn with
  | token => exact .drops rfl (.refl run.dropping)
  | happens now happening =>
    show Does setup run _ (run.step setup now happening)
    unfold step
    cases phase : run.phase with
    | closed | faulted =>
      have ended : run.isOver = true := by rw [isOver, phase]
      cases happening with
      | user id signal => exact .unheard (.inl ended)
      | _ => exact .still rfl unchanged
    | running =>
      have going : run.isOver = false := by rw [isOver, phase]
      cases happening with
      | user id signal => exact does_advance going id signal
      | tick => exact .still rfl still_tick
      | cancel | deadline => exact .still rfl ((unchanged.log _ _).stop _)
      | abort => exact .drops rfl (((Still.refl run.dropping).log _ _).stop _)
      | watch => exact .still rfl still_watch
      | graceOver | close => exact .still rfl unchanged
    | stopping status since =>
      have going : run.isOver = false := by rw [isOver, phase]
      cases happening with
      | user id signal => exact does_advance going id signal
      | abort => exact .drops rfl ⟨.refl _, rfl, ⟨[], rfl, nofun⟩, rfl⟩
      | graceOver => exact does_graceOver
      | close =>
        dsimp only
        by_cases ended : (run.pool.isQuiet || run.aborting) = true
        · rw [if_pos ended]
          exact .closes phase ended
        · rw [if_neg ended]
          exact .still rfl unchanged
      | tick | cancel | deadline | watch => exact .still rfl unchanged

/-! ### Every turn is a shift -/

theorem Still.marks (still : run.Still next) (id : ℕ) :
    next.journal.marks id = run.journal.marks id := by
  obtain ⟨lines, told, logs⟩ := still.lines
  have silent : lines.filterMap (Entry.mark? id) = [] := by
    rw [List.filterMap_eq_nil_iff]
    intro line member
    have kind := logs line member
    cases line with
    | log => rfl
    | _ => contradiction
  unfold Journal.marks
  rw [told, List.filterMap_append, silent]
  rfl

theorem Still.shift (still : run.Still next) (apart : run.pool.Apart) :
    run.Shift next fun _ => [] :=
  shift_of_kept apart still.pool still.marks

/-- **Whatever a turn does is a shift.** -/
theorem Does.shift (does : Does setup run turn next) (apart : run.pool.Apart) :
    ∃ added, run.Shift next added := by
  cases does with
  | still _ still => exact ⟨_, still.shift apart⟩
  | drops _ still =>
    obtain ⟨nextId, apart', marks, users, strange, gone⟩ := still.shift apart
    refine ⟨_, nextId, apart', marks, fun user member => ?_, strange, gone⟩
    rcases users user member with ⟨old, inside, same, mark, stride⟩ | fresh
    · exact .inl ⟨old, inside, same, mark, stride.of_silent⟩
    · exact .inr fresh
  | unheard _ => exact ⟨_, (Still.refl run).shift apart⟩
  | @advances now signal user _ found =>
    obtain ⟨marks, strides⟩ := user.advance_strides run.aborting signal
    exact ⟨_, shift_of_strides apart (List.mem_of_find?_eq_some found) strides⟩
  | closes _ ended => exact exists_shift_close apart ended _

theorem exists_shift (setup : Setup) (apart : run.pool.Apart) (turn : Turn) :
    ∃ added, run.Shift (run.turn setup turn) added :=
  (does_turn setup run turn).shift apart

/-! ### Every user has its course -/

/-- **What holds of the users of a run at every moment**, and of those that are no longer there. -/
structure Lives (run : Run) : Prop where
  apart : run.pool.Apart
  users : ∀ user ∈ run.pool.users, Course user.life user.iteration (run.journal.marks user.id)
  absent : ∀ id, (∀ user ∈ run.pool.users, user.id ≠ id) →
    ∃ whole rest, run.journal.marks id = rounds whole ++ rest ∧ Remainder whole rest
  unborn : ∀ id, run.pool.nextId ≤ id → run.journal.marks id = []

theorem lives_start (setup : Setup) : (Run.start setup).Lives where
  apart := Pool.apart_empty
  users _ member := absurd member List.not_mem_nil
  absent _ _ := ⟨0, [], rfl, .none⟩
  unborn _ _ := rfl

/-- What the journal says of anybody. -/
theorem Lives.exists_rounds (lives : run.Lives) (id : ℕ) :
    ∃ whole rest, run.journal.marks id = rounds whole ++ rest ∧ Remainder whole rest := by
  by_cases there : ∃ user ∈ run.pool.users, user.id = id
  · obtain ⟨user, member, rfl⟩ := there
    exact (lives.users user member).exists_rounds
  · exact lives.absent id fun user member same => there ⟨user, member, same⟩

/-- **A shift keeps all courses.** -/
theorem Lives.shift (lives : run.Lives) {added : ℕ → List Mark} (shift : run.Shift next added) :
    next.Lives where
  apart := shift.apart
  users user member := by
    rw [shift.marks]
    rcases shift.users user member with ⟨old, inside, same, -, stride⟩ | ⟨new, ready, fresh⟩
    · rw [← same] at stride ⊢
      exact stride.course (lives.users old inside)
    · have nobody : added user.id = [] := by
        refine shift.strange user.id fun old inside same => ?_
        have below := lives.apart.below old.id (by
          rw [Pool.ids_eq]
          exact List.mem_map_of_mem inside)
        omega
      rw [lives.unborn user.id new, nobody, ready, fresh]
      exact .between 0 rfl
  absent id missing := by
    rw [shift.marks]
    by_cases there : ∃ old ∈ run.pool.users, old.id = id
    · obtain ⟨old, inside, rfl⟩ := there
      rcases shift.gone old inside with ⟨user, member, same⟩ | ⟨-, silent⟩
      · exact absurd same (missing user member)
      · rw [silent, List.append_nil]
        exact (lives.users old inside).exists_rounds
    · have strange : ∀ old ∈ run.pool.users, old.id ≠ id :=
        fun old inside same => there ⟨old, inside, same⟩
      rw [shift.strange id strange, List.append_nil]
      exact lives.absent id strange
  unborn id new := by
    have before : run.pool.nextId ≤ id := shift.nextId.trans new
    rw [shift.marks, lives.unborn id before]
    refine shift.strange id fun old inside same => ?_
    have below := lives.apart.below old.id (by
      rw [Pool.ids_eq]
      exact List.mem_map_of_mem inside)
    omega

/-- **At every moment users have their courses.** -/
theorem lives_moment (setup : Setup) (turns : List Turn) : (moment setup turns).Lives := by
  induction turns using List.reverseRecOn with
  | nil => exact lives_start setup
  | append_singleton turns turn lives =>
    obtain ⟨added, shift⟩ := exists_shift setup lives.apart turn
    rw [moment_concat]
    exact lives.shift shift

end Run

end LoadTest
