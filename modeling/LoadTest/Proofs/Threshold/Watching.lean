/-
**The watch of a run.**

A watch looks at the thresholds again and again until it finds one that stops the run, or until it
is told to stop. A look finds the first threshold of the plan that may stop the run by then and
fails on all that is recorded, although it reads only the metrics that such thresholds name. So a
watch fires at the first look at which there is such a threshold, and never before or without it.

* `Threshold.Breaches`: a threshold that stops a run, said of the full snapshot;
* `Recorder.breach?_eq_some_iff`, `Recorder.breach?_eq_none_iff`: what a look finds;
* `Watch`, `Watch.follow`: a watch and what comes to it;
* `Watch.follow_eq_iff`: what became of a watch, by all that came to it.
-/

import Mathlib.Data.List.Basic
import Mathlib.Data.List.Induction
import LoadTest.Proofs.Table
import LoadTest.Threshold.Watch

namespace LoadTest

variable {recorder : Recorder Float} {thresholds : List Threshold} {now : Duration}

/-! ### One look -/

/-- **A threshold stops a run**: it may do so, its delay has passed, and it fails on a snapshot of
all that is recorded. -/
structure Threshold.Breaches (threshold : Threshold) (recorder : Recorder Float) (now : Duration) :
    Prop where
  armed : ∃ rule, threshold.abort = some rule ∧
    ∀ delay, rule.delay = some delay → delay ≤ recorder.elapsed now
  failed : ∃ observed reason,
    threshold.outcome ((recorder.snapshot now).get? threshold.metric) = .failed observed reason

theorem Threshold.isArmed_iff {threshold : Threshold} {elapsed : Duration} :
    threshold.isArmed elapsed = true ↔ ∃ rule, threshold.abort = some rule ∧
      ∀ delay, rule.delay = some delay → delay ≤ elapsed := by
  unfold isArmed
  cases threshold.abort with
  | none => simp
  | some rule => cases h : rule.delay <;> simp [h]

theorem Outcome.isFailed_iff {outcome : Outcome} :
    outcome.isFailed = true ↔ ∃ observed reason, outcome = .failed observed reason := by
  cases outcome <;> simp [isFailed]

namespace Recorder

/-- **One metric comes to what it comes to in a snapshot of all metrics.** -/
theorem aggregate_eq_get? (recorder : Recorder Float) (selector : Selector) (now : Duration) :
    recorder.aggregate selector now = (recorder.snapshot now).get? selector := by
  unfold aggregate Snapshot.get? snapshot
  rw [Table.get?_map]

/-- **What a look at the thresholds finds**: the first one that stops the run, with its verdict on
all that is recorded. -/
structure Finds (recorder : Recorder Float) (thresholds : List Threshold) (now : Duration)
    (breach : Breach) : Prop where
  first : ∃ earlier later, thresholds = earlier ++ breach.threshold :: later ∧
    ∀ threshold ∈ earlier, ¬ threshold.Breaches recorder now
  breaches : breach.threshold.Breaches recorder now
  verdict : breach.outcome =
    breach.threshold.outcome ((recorder.snapshot now).get? breach.threshold.metric)

/-- A threshold that is looked at stops the run exactly if it is armed and fails. -/
theorem breaches_iff {threshold : Threshold} : threshold.Breaches recorder now ↔
    (threshold.isArmed (recorder.elapsed now) &&
      (threshold.outcome (recorder.aggregate threshold.metric now)).isFailed) = true := by
  rw [Bool.and_eq_true, Threshold.isArmed_iff, Outcome.isFailed_iff, aggregate_eq_get?]
  exact ⟨fun breaches => ⟨breaches.armed, breaches.failed⟩, fun both => ⟨both.1, both.2⟩⟩

/-- **A look finds nothing exactly if no threshold stops the run.** -/
theorem breach?_eq_none_iff : recorder.breach? thresholds now = none ↔
    ∀ threshold ∈ thresholds, ¬ threshold.Breaches recorder now := by
  unfold breach?
  rw [List.findSome?_eq_none_iff]
  refine forall₂_congr fun threshold _ => ?_
  dsimp only
  rw [breaches_iff]
  split <;> simp_all

/-- **A look finds the first threshold that stops the run.** -/
theorem breach?_eq_some_iff {breach : Breach} :
    recorder.breach? thresholds now = some breach ↔ recorder.Finds thresholds now breach := by
  constructor
  · intro found
    obtain ⟨earlier, threshold, later, split, here, before⟩ := List.findSome?_eq_some_iff.1 found
    dsimp only at here
    split at here
    · rename_i both
      obtain rfl := Option.some.inj here
      refine ⟨⟨earlier, later, split, ?_⟩, breaches_iff.2 both,
        congrArg threshold.outcome (aggregate_eq_get? ..)⟩
      exact breach?_eq_none_iff.1 (List.findSome?_eq_none_iff.2 before)
    · contradiction
  · rintro ⟨⟨earlier, later, split, before⟩, breaches, verdict⟩
    refine List.findSome?_eq_some_iff.2 ⟨earlier, breach.threshold, later, split, ?_, ?_⟩
    · rw [← aggregate_eq_get?] at verdict
      rw [if_pos (breaches_iff.1 breaches), ← verdict]
    · exact List.findSome?_eq_none_iff.1 (breach?_eq_none_iff.2 before)

end Recorder

/-! ### Many looks -/

/-- **A watch**, which looks until it fires or is told to stop. -/
inductive Watch where
  | watching
  /-- The run has been told to stop, for a threshold that is reported. -/
  | fired (breach : Breach)
  /-- The watch has come back without a report, and the run was not told anything. -/
  | stopped

namespace Watch

/-- What comes to a watch: it is time for a look, with all that is recorded by then, or it is to
stop. -/
inductive Call where
  | look (recorder : Recorder Float) (now : Duration)
  | stop

/-- Whether the run has been told to stop. -/
def isTriggered : Watch → Bool
  | fired _ => true
  | _ => false

/-- What the watch comes back with, once it does: a report or none. -/
def result? : Watch → Option (Option ThresholdReport)
  | watching => none
  | fired breach => some (some breach.report)
  | stopped => some none

/-- A watch after something came to it; one that has come back hears nothing more. -/
def hear (thresholds : List Threshold) : Watch → Call → Watch
  | watching, .look recorder now =>
    match recorder.breach? thresholds now with
    | some breach => fired breach
    | none => watching
  | watching, .stop => stopped
  | watch, _ => watch

/-- **A watch after many things came to it.** -/
def follow (thresholds : List Threshold) (calls : List Call) : Watch :=
  calls.foldl (hear thresholds) watching

/-- Nothing but looks came to a watch, and no threshold stopped the run at any of them. -/
def Quiet (thresholds : List Threshold) (calls : List Call) : Prop :=
  ∀ call ∈ calls, ∃ recorder now, call = .look recorder now ∧
    ∀ threshold ∈ thresholds, ¬ threshold.Breaches recorder now

theorem follow_concat (thresholds : List Threshold) (calls : List Call) (call : Call) :
    follow thresholds (calls ++ [call]) = hear thresholds (follow thresholds calls) call :=
  List.foldl_concat ..

theorem Quiet.concat {calls : List Call} (quiet : Quiet thresholds calls)
    (missed : recorder.breach? thresholds now = none) :
    Quiet thresholds (calls ++ [.look recorder now]) :=
  List.forall_mem_append.2 ⟨quiet,
    List.forall_mem_singleton.2 ⟨recorder, now, rfl, Recorder.breach?_eq_none_iff.1 missed⟩⟩

/-- **What became of a watch**, as all that came to it decides. -/
inductive Became (thresholds : List Threshold) (calls : List Call) : Watch → Prop
  | watching (quiet : Quiet thresholds calls) : Became thresholds calls watching
  | fired {before rest : List Call} {recorder : Recorder Float} {now : Duration} {breach : Breach}
      (split : calls = before ++ .look recorder now :: rest) (quiet : Quiet thresholds before)
      (finds : recorder.Finds thresholds now breach) : Became thresholds calls (fired breach)
  | stopped {before rest : List Call} (split : calls = before ++ .stop :: rest)
      (quiet : Quiet thresholds before) : Became thresholds calls stopped

/-- What comes to a watch keeps this true. -/
theorem Became.hear {calls : List Call} {watch : Watch} (became : Became thresholds calls watch)
    (call : Call) : Became thresholds (calls ++ [call]) (watch.hear thresholds call) := by
  cases became with
  | watching quiet =>
    cases call with
    | stop => exact .stopped rfl quiet
    | look recorder now =>
      unfold Watch.hear
      dsimp only
      split
      · rename_i breach found
        exact .fired rfl quiet (Recorder.breach?_eq_some_iff.1 found)
      · rename_i missed
        exact .watching (quiet.concat missed)
  | fired split quiet finds =>
    exact .fired (by rw [split, List.append_assoc, List.cons_append]) quiet finds
  | stopped split quiet => exact .stopped (by rw [split, List.append_assoc, List.cons_append]) quiet

theorem became_follow (thresholds : List Threshold) (calls : List Call) :
    Became thresholds calls (follow thresholds calls) := by
  induction calls using List.reverseRecOn with
  | nil => exact .watching nofun
  | append_singleton calls call ih =>
    rw [follow_concat]
    exact ih.hear call

theorem follow_of_quiet {calls : List Call} (quiet : Quiet thresholds calls) :
    follow thresholds calls = watching := by
  induction calls using List.reverseRecOn with
  | nil => rfl
  | append_singleton calls call ih =>
    obtain ⟨before, last⟩ := List.forall_mem_append.1 quiet
    obtain ⟨recorder, now, rfl, missed⟩ := last call List.mem_cons_self
    rw [follow_concat, ih before]
    unfold Watch.hear
    dsimp only
    rw [Recorder.breach?_eq_none_iff.2 missed]

/-- A watch that has come back hears nothing more. -/
theorem follow_of_back {before rest : List Call} {call : Call} {watch : Watch}
    (quiet : Quiet thresholds before) (heard : watching.hear thresholds call = watch)
    (back : watch ≠ watching) : follow thresholds (before ++ call :: rest) = watch := by
  have silent : ∀ calls : List Call, calls.foldl (hear thresholds) watch = watch := by
    intro calls
    induction calls with
    | nil => rfl
    | cons call calls ih =>
      cases watch with
      | watching => exact absurd rfl back
      | fired | stopped => exact ih
  unfold follow
  rw [List.foldl_append, List.foldl_cons]
  change rest.foldl _ ((follow thresholds before).hear thresholds call) = watch
  rw [follow_of_quiet quiet, heard, silent]

/-- **What became of a watch is decided by all that came to it**: it fires at the first look that
finds a threshold which stops the run, unless it was told to stop before. -/
theorem follow_eq_iff {calls : List Call} {watch : Watch} :
    follow thresholds calls = watch ↔ Became thresholds calls watch := by
  refine ⟨fun same => same ▸ became_follow thresholds calls, fun became => ?_⟩
  cases became with
  | watching quiet => exact follow_of_quiet quiet
  | stopped split quiet =>
    rw [split]
    exact follow_of_back quiet rfl Watch.noConfusion
  | fired split quiet finds =>
    rw [split]
    refine follow_of_back quiet ?_ Watch.noConfusion
    unfold Watch.hear
    dsimp only
    rw [Recorder.breach?_eq_some_iff.2 finds]

end Watch

end LoadTest
