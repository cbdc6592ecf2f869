/-
**What happens in virtual time.**

A run that is played in virtual time is a run to which things happen, in the order in which they are
due. A tick is due as long as the run goes on, and nothing else is put off behind it, so the ticks
of the run lie at the multiples of the tick of the plan, from zero on. Thresholds are looked at only
if the timeline says when.

* `Timeline.played`: what happens in a run that is played;
* `Timeline.Comes`: what may be due;
* `Timeline.play_eq_follow`: playing a run is following what happens in it;
* `Timeline.ticksOf_played`: its ticks lie at the multiples of the tick;
* `Timeline.unwatched_played`: without a time for it nobody looks at the thresholds.
-/

import LoadTest.Proofs.Run.Ending
import LoadTest.Run.Timeline

namespace LoadTest

/-! ### Multiples of a span -/

namespace Duration

theorem nanos_ofNanos_min (nanos : ℕ) : (ofNanos nanos).nanos = min nanos longest.nanos := by
  rcases Nat.le_total nanos longest.nanos with fits | beyond
  · rw [nanos_ofNanos fits, min_eq_left fits]
  · rcases beyond.eq_or_lt with rfl | above
    · rw [nanos_ofNanos le_rfl, min_self]
    · have outside : ¬ nanos < (Decimal.maxWord + 1) * nanosPerSecond := by
        simp only [longest] at above
        omega
      rw [min_eq_right above.le, ofNanos, ofNanos?, dif_neg outside]
      rfl

/-- A multiple of a span; beyond the range it is the longest span. -/
def times (count : ℕ) (span : Duration) : Duration := ofNanos (count * span.nanos)

@[simp] theorem zero_times (span : Duration) : times 0 span = zero := by
  rw [times, Nat.zero_mul]
  rfl

theorem times_add (count : ℕ) (span : Duration) : times count span + span = times (count + 1) span := by
  apply Duration.ext
  rw [nanos_add, times, times, nanos_ofNanos_min, nanos_ofNanos_min, Nat.succ_mul]
  omega

theorem times_mono {few many : ℕ} (order : few ≤ many) (span : Duration) :
    times few span ≤ times many span := by
  show (times few span).nanos ≤ (times many span).nanos
  rw [times, times, nanos_ofNanos_min, nanos_ofNanos_min]
  exact min_le_min_right _ (Nat.mul_le_mul_right _ order)

theorem le_add_right (d e : Duration) : d ≤ d + e := by
  show d.nanos ≤ (d + e).nanos
  rw [nanos_add]
  exact le_min (Nat.le_add_right _ _) d.nanos_le_longest

end Duration

namespace Timeline

variable {setup : Setup} {server : Outgoing → Reply} {timeline : Timeline} {run : Run}
  {now : Duration} {due : Due}

/-! ### What is due -/

/-- The earliest of what is due is due, and nothing is due before it. -/
theorem earliest_spec {dues : List Due} (first : earliest? dues = some due) :
    due ∈ dues ∧ ∀ other ∈ dues, due.time.nanos ≤ other.time.nanos := by
  cases dues with
  | nil => contradiction
  | cons head rest =>
    obtain rfl := Option.some.inj first
    clear first
    induction rest generalizing head with
    | nil => simp
    | cons next rest ih =>
      rw [List.foldl_cons]
      by_cases sooner : next.time < head.time
      · rw [if_pos sooner]
        obtain ⟨member, least⟩ := ih next
        refine ⟨List.mem_cons_of_mem _ member, List.forall_mem_cons.2 ⟨?_, least⟩⟩
        exact (least next List.mem_cons_self).trans (Nat.le_of_lt sooner)
      · rw [if_neg sooner]
        obtain ⟨member, least⟩ := ih head
        obtain ⟨here, later⟩ := List.forall_mem_cons.1 least
        refine ⟨?_, List.forall_mem_cons.2 ⟨here, List.forall_mem_cons.2 ⟨?_, later⟩⟩⟩
        · rcases List.mem_cons.1 member with same | behind
          · rw [same]
            exact List.mem_cons_self
          · exact List.mem_cons_of_mem _ (List.mem_cons_of_mem _ behind)
        · exact here.trans (Nat.le_of_not_lt sooner)

/-- **What may be due**: a tick while the run goes on, a look at the thresholds if there is a time
for it, and other things, which put off neither. -/
inductive Comes (setup : Setup) (timeline : Timeline) (run : Run) : Due → Prop
  | tick (running : run.phase = .running) :
    Comes setup timeline run
      ⟨timeline.nextTick, .tick, { timeline with nextTick := timeline.nextTick + setup.plan.tick }⟩
  | watch {time : Duration} (next : timeline.nextWatch = some time) (rest : Timeline)
      (tick : rest.nextTick = timeline.nextTick) :
    Comes setup timeline run ⟨time, .watch, rest⟩
  | other {due : Due} (notTick : due.happening ≠ .tick) (notWatch : due.happening ≠ .watch)
      (tick : due.rest.nextTick = timeline.nextTick)
      (watch : due.rest.nextWatch = timeline.nextWatch) :
    Comes setup timeline run due

theorem comes_users (member : due ∈ timeline.users setup server run) :
    Comes setup timeline run due := by
  obtain ⟨user, -, waits⟩ := List.mem_filterMap.1 member
  obtain ⟨⟨span, signal⟩, -, rfl⟩ := Option.map_eq_some_iff.1 waits
  exact .other nofun nofun rfl rfl

theorem comes_aborts (member : due ∈ timeline.aborts) : Comes setup timeline run due := by
  obtain ⟨time, -, rfl⟩ := List.mem_map.1 member
  exact .other nofun nofun rfl rfl

theorem comes_outside (running : run.phase = .running) (member : due ∈ timeline.outside setup.plan) :
    Comes setup timeline run due := by
  simp only [outside, List.mem_append] at member
  rcases member with (((cancel | abort) | deadline) | tick) | watch
  · obtain ⟨time, -, rfl⟩ := List.mem_map.1 cancel
    exact .other nofun nofun rfl rfl
  · exact comes_aborts abort
  · obtain ⟨time, -, rfl⟩ := List.mem_map.1 deadline
    exact .other nofun nofun rfl rfl
  · obtain rfl := List.mem_singleton.1 tick
    exact .tick running
  · obtain ⟨time, next, rfl⟩ := List.mem_map.1 watch
    exact .watch (Option.mem_toList.1 next) _ rfl

theorem comes_dues (member : due ∈ timeline.dues setup server run now) :
    Comes setup timeline run due := by
  unfold dues at member
  split at member
  · rename_i running
    rcases List.mem_append.1 member with own | other
    · exact comes_users own
    · exact comes_outside running other
  · split at member
    · obtain rfl := List.mem_singleton.1 member
      exact .other nofun nofun rfl rfl
    · rcases List.mem_append.1 member with before | grace
      · rcases List.mem_append.1 before with own | abort
        · exact comes_users own
        · exact comes_aborts abort
      · split at grace
        · contradiction
        · obtain rfl := List.mem_singleton.1 grace
          exact .other nofun nofun rfl rfl
  · contradiction

/-- **What happens next may be due**, at its time or late; while the run goes on, it is not due
after the next tick. -/
theorem next_spec (next : timeline.next? setup server run now = some due) :
    ∃ own, Comes setup timeline run own ∧ due.happening = own.happening ∧ due.rest = own.rest ∧
      due.time.nanos = max own.time.nanos now.nanos ∧
        (run.phase = .running → own.time.nanos ≤ timeline.nextTick.nanos) := by
  obtain ⟨own, first, same⟩ := Option.map_eq_some_iff.1 next
  obtain ⟨member, least⟩ := earliest_spec first
  have before : run.phase = .running → own.time.nanos ≤ timeline.nextTick.nanos := by
    intro running
    refine least ⟨timeline.nextTick, .tick,
      { timeline with nextTick := timeline.nextTick + setup.plan.tick }⟩ ?_
    unfold dues
    rw [running]
    simp [outside]
  refine ⟨own, comes_dues member, ?_⟩
  by_cases late : own.time < now
  · obtain rfl : { own with time := now } = due := by rw [← same, if_pos late]
    exact ⟨rfl, rfl, (max_eq_right (Nat.le_of_lt late)).symm, before⟩
  · obtain rfl : own = due := by rw [← same, if_neg late]
    exact ⟨rfl, rfl, (max_eq_left (Nat.le_of_not_lt late)).symm, before⟩

/-! ### Whole runs -/

/-- **What happens in a run that is played**, each at its time. -/
def played (setup : Setup) (server : Outgoing → Reply) :
    Nat → Timeline → Duration → Run → List (Duration × Happening)
  | 0, _, _, _ => []
  | most + 1, timeline, now, run =>
    match timeline.next? setup server run now with
    | none => []
    | some due =>
      (due.time, due.happening) ::
        played setup server most due.rest due.time (run.step setup due.time due.happening)

/-- **To play a run is to follow what happens in it.** -/
theorem play_eq_follow (most : ℕ) (timeline : Timeline) (now : Duration) (run : Run) :
    play setup server most timeline now run =
      run.follow setup (played setup server most timeline now run) := by
  induction most generalizing timeline now run with
  | zero => rfl
  | succ most ih =>
    unfold play played
    cases timeline.next? setup server run now with
    | none => rfl
    | some due => exact ih due.rest due.time _

/-- **Without a time for it nobody looks at the thresholds.** -/
theorem unwatched_played (most : ℕ) (silent : timeline.nextWatch = none) :
    ∀ next ∈ played setup server most timeline now run, next.2 ≠ .watch := by
  induction most generalizing timeline now run with
  | zero => exact fun _ member => absurd member List.not_mem_nil
  | succ most ih =>
    unfold played
    cases following : timeline.next? setup server run now with
    | none => exact fun _ member => absurd member List.not_mem_nil
    | some due =>
      obtain ⟨own, comes, happening, rest, -⟩ := next_spec following
      have kept : due.happening ≠ .watch ∧ due.rest.nextWatch = none := by
        rw [happening, rest]
        cases comes with
        | tick => exact ⟨nofun, silent⟩
        | watch time => exact absurd (silent.symm.trans time) nofun
        | other _ notWatch _ watch => exact ⟨notWatch, watch.trans silent⟩
      exact List.forall_mem_cons.2 ⟨kept.1, ih kept.2⟩

theorem ticksOf_cons_tick (time : Duration) (rest : List (Duration × Happening)) :
    Run.ticksOf ((time, .tick) :: rest) = time :: Run.ticksOf rest := rfl

theorem ticksOf_cons_other (time : Duration) {happening : Happening}
    (notTick : happening ≠ .tick) (rest : List (Duration × Happening)) :
    Run.ticksOf ((time, happening) :: rest) = Run.ticksOf rest := by
  cases happening with
  | tick => exact absurd rfl notTick
  | _ => rfl

/-- The ticks of a run that is played lie at the multiples of the tick from the next one on. While
the run goes on the time of the next tick has not passed, so no tick is late. -/
theorem ticksOf_played_from (most first : ℕ)
    (next : timeline.nextTick = .times first setup.plan.tick)
    (early : run.phase = .running → now.nanos ≤ timeline.nextTick.nanos) :
    ∃ count, Run.ticksOf (played setup server most timeline now run) =
      (List.range' first count).map fun place => .times place setup.plan.tick := by
  induction most generalizing first timeline now run with
  | zero => exact ⟨0, rfl⟩
  | succ most ih =>
    unfold played
    cases following : timeline.next? setup server run now with
    | none => exact ⟨0, rfl⟩
    | some due =>
      obtain ⟨own, comes, happening, rest, time, before⟩ := next_spec following
      have inTime (running : (run.step setup due.time due.happening).phase = .running) :
          due.time.nanos ≤ timeline.nextTick.nanos := by
        have earlier := (@Run.running_before setup run (.happens due.time due.happening) running).1
        rw [time]
        exact max_le (before earlier) (early earlier)
      have goesOn (notTick : own.happening ≠ .tick) (tick : own.rest.nextTick = timeline.nextTick) :
          ∃ count, Run.ticksOf ((due.time, due.happening) ::
              played setup server most due.rest due.time (run.step setup due.time due.happening)) =
            (List.range' first count).map fun place => .times place setup.plan.tick := by
        rw [ticksOf_cons_other due.time (happening ▸ notTick)]
        rw [← rest] at tick
        exact ih first (tick.trans next) fun running => (inTime running).trans_eq (by rw [tick])
      cases comes with
      | tick running =>
        have onTime : due.time = .times first setup.plan.tick := by
          rw [← next]
          exact Duration.ext (time.trans (max_eq_left (early running)))
        have later : due.rest.nextTick = .times (first + 1) setup.plan.tick := by
          rw [rest, ← Duration.times_add, ← next]
        have inTimeLater (going : (run.step setup due.time due.happening).phase = .running) :
            due.time.nanos ≤ due.rest.nextTick.nanos := by
          rw [rest]
          exact (inTime going).trans (timeline.nextTick.le_add_right setup.plan.tick)
        obtain ⟨count, ticks⟩ := ih (first + 1) later inTimeLater
        refine ⟨count + 1, ?_⟩
        have head : ∀ behind, Run.ticksOf ((due.time, due.happening) :: behind) =
            due.time :: Run.ticksOf behind := by
          rw [happening]
          exact ticksOf_cons_tick due.time
        rw [head, ticks, List.range'_succ, List.map_cons, onTime]
      | watch next other tick => exact goesOn nofun tick
      | other notTick _ tick _ => exact goesOn notTick tick

/-- **The ticks of a run in virtual time lie at the multiples of the tick**, from zero on. -/
theorem ticksOf_played (setup : Setup) (server : Outgoing → Reply) (most : ℕ) :
    ∃ count, Run.ticksOf (played setup server most (ofPlan setup.plan) .zero (Run.start setup)) =
      (List.range count).map fun place => .times place setup.plan.tick := by
  obtain ⟨count, ticks⟩ := @ticksOf_played_from setup server (ofPlan setup.plan) (Run.start setup)
    .zero most 0 (Duration.zero_times _).symm fun _ => Nat.zero_le _
  exact ⟨count, by rw [ticks, List.range_eq_range']⟩

/-- A run in virtual time after what happens in it. -/
theorem play_ofPlan (setup : Setup) (server : Outgoing → Reply) (most : ℕ) :
    play setup server most (ofPlan setup.plan) .zero (Run.start setup) =
      Run.after setup (played setup server most (ofPlan setup.plan) .zero (Run.start setup)) :=
  play_eq_follow most _ _ _

end Timeline

end LoadTest
