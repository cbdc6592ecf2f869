/-
**The rounds of a user.**

A user runs one iteration after the other, numbered from one on. What a user does on a signal, or
when a run is closed, is one of a few strides: it begins an iteration, goes on in it, ends it, or
comes to its end. Only a user that is not retired begins an iteration, only one between two
iterations leaves retired, and an iteration is dropped only while iterations are being dropped. So
what the journal says of a user is a number of whole rounds and at most one more that is open or
was dropped.

* `Journal.marks`: what the journal says of a user;
* `Stride`: all that a user can do at once;
* `User.advance_strides`, `User.discard_strides`: a user takes a stride on a signal, and at the
  close;
* `Course`: what the journal says of a user by where it stands;
* `Stride.course`: every stride keeps that;
* `Stride.of_retired`: a retired user begins no iteration.
-/

import LoadTest.Proofs.Run.Conservation

namespace LoadTest

/-! ### What a journal says of a user -/

/-- What a user did, as far as its iterations and its end go. -/
inductive Mark where
  | began (iteration : ℕ)
  | ended (iteration : ℕ)
  | dropped (iteration : ℕ)
  | left (exit : Exit)
deriving DecidableEq

/-- Whether an iteration ran to its end. -/
def Mark.isEnd : Mark → Bool
  | ended _ => true
  | _ => false

/-- What an entry says of a user. -/
def Entry.mark? (id : ℕ) : Entry → Option Mark
  | .began user iteration _ => if user = id then some (.began iteration) else none
  | .ended user iteration _ _ _ => if user = id then some (.ended iteration) else none
  | .dropped user iteration _ => if user = id then some (.dropped iteration) else none
  | .left user exit => if user = id then some (.left exit) else none
  | .log .. | .sent .. | .settled .. => none

namespace Journal

variable {journal : Journal}

/-- **What the journal says of a user**, in the order in which it happened. -/
def marks (journal : Journal) (id : ℕ) : List Mark :=
  (journal.entries.filterMap (Entry.mark? id)).reverse

theorem marks_add (journal : Journal) (entry : Entry) (id : ℕ) :
    (journal.add entry).marks id = journal.marks id ++ (entry.mark? id).toList := by
  unfold marks add
  rw [List.filterMap_cons]
  cases entry.mark? id with
  | none => simp
  | some mark => simp

end Journal

/-! ### Strides -/

/-- Whether the user is between two iterations. -/
def Life.isBetween : Life → Bool
  | ready | pausing => true
  | _ => false

/-- **All that a user can do at once**: where it stands and how many iterations it began, before
and after, and what the journal says of it. -/
inductive Stride (retired aborting : Bool) : Life → ℕ → Life → ℕ → List Mark → Prop
  | stays (life : Life) (count : ℕ) : Stride retired aborting life count life count []
  | goesOn {began : Duration} {activity next : Activity} {count : ℕ} :
    Stride retired aborting (.busy began activity) count (.busy began next) count []
  | ends {began : Duration} {activity : Activity} {count : ℕ} {after : Life}
      (between : after.isBetween = true) :
    Stride retired aborting (.busy began activity) count after count [.ended count]
  | begins {before : Life} {began : Duration} {activity : Activity} {count : ℕ}
      (between : before.isBetween = true) (active : retired = false) (going : aborting = false) :
    Stride retired aborting before count (.busy began activity) (count + 1) [.began (count + 1)]
  | completes {before after : Life} {count : ℕ} (between : before.isBetween = true)
      (active : retired = false) (going : aborting = false) (again : after.isBetween = true) :
    Stride retired aborting before count after (count + 1) [.began (count + 1), .ended (count + 1)]
  | drops {began : Duration} {activity : Activity} {count : ℕ} (dropping : aborting = true) :
    Stride retired aborting (.busy began activity) count (.gone .aborted) count
      [.dropped count, .left .aborted]
  | retires {before : Life} {count : ℕ} (between : before.isBetween = true)
      (marked : retired = true) :
    Stride retired aborting before count (.gone .retired) count [.left .retired]
  | aborts {before : Life} {count : ℕ} (between : before.isBetween = true)
      (dropping : aborting = true) :
    Stride retired aborting before count (.gone .aborted) count [.left .aborted]

/-- **A user and a journal after a stride**: the user is who it was, and the journal has something
new to say of this user only. -/
structure User.Strides (aborting : Bool) (user : User) (journal : Journal) (next : User × Journal)
    (marks : List Mark) : Prop where
  id : next.1.id = user.id
  retired : next.1.retired = user.retired
  stride : Stride user.retired aborting user.life user.iteration next.1.life next.1.iteration marks
  marks : next.2.marks user.id = journal.marks user.id ++ marks
  others : ∀ other, other ≠ user.id → next.2.marks other = journal.marks other

namespace User

variable {setup : Setup} {now began : Duration} {user : User} {journal : Journal}
  {aborting : Bool}

/-- A user and a journal after a user went on in an iteration, which ended or goes on. -/
structure Proceeded (user : User) (journal : Journal) (began : Duration) (next : User × Journal)
    (marks : List Mark) : Prop where
  id : next.1.id = user.id
  retired : next.1.retired = user.retired
  iteration : next.1.iteration = user.iteration
  life : (∃ activity, next.1.life = .busy began activity) ∧ marks = [] ∨
    next.1.life.isBetween = true ∧ marks = [.ended user.iteration]
  marks : next.2.marks user.id = journal.marks user.id ++ marks
  others : ∀ other, other ≠ user.id → next.2.marks other = journal.marks other

theorem exists_proceeded (activity : Activity) :
    ∃ marks, user.Proceeded journal began (user.proceed setup now began activity journal) marks := by
  have pauses : ∀ pauses : Bool, (if pauses then Life.pausing else .ready).isBetween = true := by
    intro pauses
    cases pauses <;> rfl
  unfold proceed
  dsimp only
  split
  · refine ⟨[.ended user.iteration], rfl, rfl, rfl, .inr ⟨pauses _, rfl⟩, ?_, fun other apart => ?_⟩
    · unfold complete
      rw [Journal.marks_add]
      simp only [Entry.mark?, if_true]
      rfl
    · unfold complete
      rw [Journal.marks_add]
      simp only [Entry.mark?, if_neg (Ne.symm apart)]
      exact List.append_nil _
  · exact ⟨[], rfl, rfl, rfl, .inl ⟨⟨_, rfl⟩, rfl⟩, Journal.marks_add ..,
      fun other _ => (Journal.marks_add ..).trans (List.append_nil _)⟩
  · exact ⟨[], rfl, rfl, rfl, .inl ⟨⟨_, rfl⟩, rfl⟩, (List.append_nil _).symm, fun _ _ => rfl⟩

theorem strides_unchanged : user.Strides aborting journal (user, journal) [] :=
  ⟨rfl, rfl, .stays _ _, (List.append_nil _).symm, fun _ _ => rfl⟩

theorem marks_left (exit : Exit) (id : ℕ) : (user.leave exit journal).2.marks id =
    journal.marks id ++ if user.id = id then [.left exit] else [] := by
  unfold leave
  rw [Journal.marks_add]
  by_cases same : user.id = id <;> simp [Entry.mark?, same]

theorem leave_strides {exit : Exit}
    (stride : Stride user.retired aborting user.life user.iteration (.gone exit) user.iteration
      [.left exit]) : user.Strides aborting journal (user.leave exit journal) [.left exit] := by
  refine ⟨rfl, rfl, stride, ?_, fun other apart => ?_⟩
  · rw [marks_left, if_pos rfl]
  · rw [marks_left, if_neg (Ne.symm apart), List.append_nil]

theorem drop_strides {activity : Activity} (busy : user.life = .busy began activity)
    (dropping : aborting = true) : user.Strides aborting journal (user.drop now journal)
      [.dropped user.iteration, .left .aborted] := by
  refine ⟨rfl, rfl, busy ▸ .drops dropping, ?_, fun other apart => ?_⟩
  · unfold drop
    rw [marks_left, if_pos rfl, Journal.marks_add]
    simp [Entry.mark?]
  · unfold drop
    rw [marks_left, if_neg (Ne.symm apart), Journal.marks_add]
    simp [Entry.mark?, Ne.symm apart]

/-- Between two iterations a user comes to its end or begins the next one. -/
theorem arrive_strides (between : user.life.isBetween = true) (aborting : Bool) :
    ∃ marks, user.Strides aborting journal (user.arrive setup now aborting journal) marks := by
  unfold arrive
  by_cases retired : user.retired = true
  · rw [if_pos retired]
    exact ⟨_, leave_strides (.retires between retired)⟩
  · rw [if_neg retired]
    by_cases dropping : aborting = true
    · rw [if_pos dropping]
      exact ⟨_, leave_strides (.aborts between dropping)⟩
    · rw [if_neg dropping]
      have active : user.retired = false := Bool.eq_false_of_not_eq_true retired
      have going : aborting = false := Bool.eq_false_of_not_eq_true dropping
      obtain ⟨marks, went⟩ := @exists_proceeded setup now now
        { user with iteration := user.iteration + 1, step := none }
        (journal.add (.began user.id (user.iteration + 1) now))
        (setup.scenario user.id (user.iteration + 1))
      have first : (journal.add (.began user.id (user.iteration + 1) now)).marks user.id =
          journal.marks user.id ++ [.began (user.iteration + 1)] := by
        rw [Journal.marks_add]
        simp [Entry.mark?]
      refine ⟨.began (user.iteration + 1) :: marks, went.id, went.retired, ?_, ?_,
        fun other apart => ?_⟩
      · have count : ((user.begin setup now journal).1).iteration = user.iteration + 1 :=
          went.iteration
        rw [count]
        rcases went.life with ⟨⟨activity, busy⟩, rfl⟩ | ⟨again, rfl⟩
        · have life : (user.begin setup now journal).1.life = .busy now activity := busy
          rw [life]
          exact .begins between active going
        · exact .completes between active going again
      · refine went.marks.trans ?_
        rw [first, List.append_assoc]
        rfl
      · refine (went.others other apart).trans ?_
        rw [Journal.marks_add]
        simp [Entry.mark?, Ne.symm apart]

/-- In an iteration a user goes on or ends it. What it heard says nothing of its iterations. -/
theorem proceed_strides {activity : Activity} (busy : user.life = .busy began activity)
    (next : Activity) {heard : Journal} (silent : ∀ id, heard.marks id = journal.marks id) :
    ∃ marks, user.Strides aborting journal (user.proceed setup now began next heard) marks := by
  obtain ⟨marks, went⟩ := @exists_proceeded setup now began user heard next
  refine ⟨marks, went.id, went.retired, ?_, ?_, fun other apart => ?_⟩
  · rw [busy, went.iteration]
    rcases went.life with ⟨⟨after, goes⟩, rfl⟩ | ⟨again, rfl⟩
    · rw [goes]
      exact .goesOn
    · exact .ends again
  · rw [went.marks, silent]
  · rw [went.others other apart, silent]

/-- **On a signal a user takes a stride.** -/
theorem advance_strides (aborting : Bool) (signal : Signal) :
    ∃ marks, user.Strides aborting journal
      (user.advance setup now aborting signal journal) marks := by
  unfold advance
  cases life : user.life with
  | gone _ => exact ⟨[], strides_unchanged⟩
  | ready => exact arrive_strides (congrArg Life.isBetween life) aborting
  | pausing =>
    cases signal with
    | wake => exact arrive_strides (congrArg Life.isBetween life) aborting
    | reply _ => exact ⟨[], strides_unchanged⟩
  | busy began activity =>
    dsimp only
    by_cases dropping : aborting = true
    · rw [if_pos dropping]
      exact ⟨_, drop_strides life dropping⟩
    · rw [if_neg dropping]
      cases activity.receive signal with
      | none => exact ⟨[], strides_unchanged⟩
      | some next =>
        cases signal with
        | wake => exact proceed_strides life next fun _ => rfl
        | reply reply =>
          refine proceed_strides life next fun id => ?_
          rw [Journal.marks_add]
          exact List.append_nil _

/-- **A user that is discarded takes a stride to its end.** -/
theorem discard_strides : ∃ marks, user.Strides true journal (user.discard now journal) marks := by
  unfold discard
  cases life : user.life with
  | gone _ => exact ⟨[], strides_unchanged⟩
  | busy _ _ => exact ⟨_, drop_strides life rfl⟩
  | ready => exact ⟨_, leave_strides (.aborts (congrArg Life.isBetween life) rfl)⟩
  | pausing => exact ⟨_, leave_strides (.aborts (congrArg Life.isBetween life) rfl)⟩

theorem discard_isGone : (user.discard now journal).1.isGone = true := by
  unfold discard
  cases life : user.life with
  | gone _ => exact congrArg Life.isGone life
  | busy _ _ | ready | pausing => rfl

end User

/-! ### Courses -/

/-- So many whole rounds: iterations that began and ended, numbered from one on. -/
def rounds (count : ℕ) : List Mark :=
  (List.range' 1 count).flatMap fun iteration => [.began iteration, .ended iteration]

theorem rounds_succ (count : ℕ) :
    rounds (count + 1) = rounds count ++ [.began (count + 1), .ended (count + 1)] := by
  unfold rounds
  rw [List.range'_concat, List.flatMap_append, Nat.one_mul, Nat.add_comm 1 count]
  rfl

theorem ended_mem_rounds {iteration count : ℕ} :
    Mark.ended iteration ∈ rounds count ↔ 1 ≤ iteration ∧ iteration ≤ count := by
  unfold rounds
  rw [List.mem_flatMap]
  constructor
  · rintro ⟨other, member, same⟩
    obtain ⟨low, high⟩ := List.mem_range'_1.mp member
    obtain rfl : iteration = other := by simpa using same
    omega
  · rintro ⟨low, high⟩
    exact ⟨iteration, List.mem_range'_1.mpr (by omega), by simp⟩

/-- **What a journal says of a user by where it stands** and how many iterations it began. -/
inductive Course : Life → ℕ → List Mark → Prop
  | between {life : Life} (count : ℕ) (between : life.isBetween = true) :
    Course life count (rounds count)
  | inside {began : Duration} {activity : Activity} (count : ℕ) :
    Course (.busy began activity) (count + 1) (rounds count ++ [.began (count + 1)])
  | left (exit : Exit) (count : ℕ) : Course (.gone exit) count (rounds count ++ [.left exit])
  | dropped (count : ℕ) : Course (.gone .aborted) (count + 1)
      (rounds count ++ [.began (count + 1), .dropped (count + 1), .left .aborted])

/-- What a journal can say of a user after so many whole rounds. -/
inductive Remainder (count : ℕ) : List Mark → Prop
  | none : Remainder count []
  | inside : Remainder count [.began (count + 1)]
  | left (exit : Exit) : Remainder count [.left exit]
  | dropped : Remainder count [.began (count + 1), .dropped (count + 1), .left .aborted]

section Course

variable {retired aborting : Bool} {before after : Life} {count next : ℕ}
  {marks added : List Mark}

theorem Course.exists_rounds (course : Course before count marks) :
    ∃ whole rest, marks = rounds whole ++ rest ∧ Remainder whole rest := by
  cases course with
  | between count between => exact ⟨count, [], (List.append_nil _).symm, .none⟩
  | inside count => exact ⟨count, _, rfl, .inside⟩
  | left exit count => exact ⟨count, _, rfl, .left exit⟩
  | dropped count => exact ⟨count, _, rfl, .dropped⟩

theorem Course.of_between (course : Course before count marks) (between : before.isBetween = true) :
    marks = rounds count := by
  cases course with
  | between => rfl
  | inside | left | dropped => contradiction

theorem Course.of_busy {began : Duration} {activity : Activity}
    (course : Course (.busy began activity) count marks) :
    ∃ whole, count = whole + 1 ∧ marks = rounds whole ++ [.began (whole + 1)] := by
  cases course with
  | between count between => contradiction
  | inside whole => exact ⟨whole, rfl, rfl⟩

/-- **Every stride keeps the course of a user.** -/
theorem Stride.course (stride : Stride retired aborting before count after next added)
    (course : Course before count marks) : Course after next (marks ++ added) := by
  cases stride with
  | stays =>
    rw [List.append_nil]
    exact course
  | goesOn =>
    obtain ⟨whole, rfl, rfl⟩ := course.of_busy
    rw [List.append_nil]
    exact .inside whole
  | ends between =>
    obtain ⟨whole, rfl, rfl⟩ := course.of_busy
    rw [List.append_assoc]
    show Course after (whole + 1) (rounds whole ++ [.began (whole + 1), .ended (whole + 1)])
    rw [← rounds_succ]
    exact .between _ between
  | begins between =>
    rw [course.of_between between]
    exact .inside count
  | completes between active going again =>
    rw [course.of_between between, ← rounds_succ]
    exact .between _ again
  | drops =>
    obtain ⟨whole, rfl, rfl⟩ := course.of_busy
    rw [List.append_assoc]
    exact .dropped whole
  | retires between =>
    rw [course.of_between between]
    exact .left .retired count
  | aborts between =>
    rw [course.of_between between]
    exact .left .aborted count

/-- A user of which nothing new is said could do so whether or not iterations are being dropped. -/
theorem Stride.of_silent (stride : Stride retired aborting before count after next [])
    {other : Bool} : Stride retired other before count after next [] := by
  cases stride with
  | stays => exact .stays _ _
  | goesOn => exact .goesOn

/-- A user that is gone stays where it is, whether or not iterations are being dropped. -/
theorem Stride.of_gone (stride : Stride retired aborting before count after next added)
    (gone : before.isGone = true) {other : Bool} :
    Stride retired other before count after next added := by
  cases stride with
  | stays => exact .stays _ _
  | goesOn | ends | drops => exact absurd gone nofun
  | begins between | completes between | retires between | aborts between =>
    cases before <;> contradiction

/-- **A retired user begins no iteration**, and ends one at most if it is in it. -/
theorem Stride.of_retired (stride : Stride true aborting before count after next added) :
    (∀ iteration, Mark.began iteration ∉ added) ∧
      added.countP Mark.isEnd + after.isBusy.toNat ≤ before.isBusy.toNat := by
  cases stride with
  | stays => exact ⟨fun _ => List.not_mem_nil, by simp⟩
  | goesOn => exact ⟨fun _ => List.not_mem_nil, le_rfl⟩
  | ends between =>
    refine ⟨by simp, ?_⟩
    cases after <;> simp_all [Life.isBetween, Life.isBusy, Mark.isEnd]
  | drops => exact ⟨by simp, by simp [Mark.isEnd, Life.isBusy]⟩
  | retires | aborts => exact ⟨by simp, by simp [Mark.isEnd, Life.isBusy]⟩
  | begins _ active | completes _ active => contradiction

/-- **An iteration is dropped only while iterations are being dropped.** -/
theorem Stride.of_dropped (stride : Stride retired aborting before count after next added)
    {iteration : ℕ} (dropped : Mark.dropped iteration ∈ added) : aborting = true := by
  cases stride with
  | drops dropping => exact dropping
  | _ => simp at dropped

/-- **Only a retired user leaves as one**, between two iterations. -/
theorem Stride.of_left (stride : Stride retired aborting before count after next added)
    (left : Mark.left .retired ∈ added) : retired = true ∧ before.isBetween = true := by
  cases stride with
  | retires between marked => exact ⟨marked, between⟩
  | _ => simp at left

end Course

end LoadTest
