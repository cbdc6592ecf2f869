/-
**What is kept only grows.**

Whatever samples come, in whatever order, what is kept under a key stays and the values of some of
them are added behind it: values that can be recorded, of samples that have the key. A key that no
sample has keeps what it had.

* `Recorder.get?_recordAll_of`: what one more value keeps of a key is kept by all samples;
* `Recorder.exists_values`: what is kept of a metric are values that can be recorded;
* `Recorder.exists_more`: what later samples add to a metric.
-/

import LoadTest.Proofs.Metric.Recompute
import LoadTest.Proofs.Recorder.Taken

set_option linter.unusedSectionVars false

namespace LoadTest

/-- All the values can be recorded. -/
def Measured.Recordable {α : Type} [Scalar α] (values : List (Measured α)) : Prop :=
  ∀ value ∈ values, value.isUnrecordable = false

namespace Recorder

variable {α : Type} [Scalar α] {recorder : Recorder α} {key : String} {P : Option (Sink α) → Prop}

/-! ### One key -/

theorem submetrics_record (recorder : Recorder α) (sample : Sample α) :
    (recorder.record sample).1.submetrics = recorder.submetrics := by
  generalize result : recorder.record sample = after
  cases result ▸ record_outcome recorder sample with
  | dropped | nonFinite => rfl
  | taken => exact (tally_frame ..).2.1.trans (addingAll_frame ..).1
  | mismatch => exact (addingAll_frame ..).1

/-- **What holds of a key, and is kept by one more value of the sample, holds after it.** -/
theorem get?_record_of {sample : Sample α} (before : P (recorder.sinks.get? key))
    (adds : sample.value.isUnrecordable = false → key ∈ recorder.keysOf sample →
      ∀ sink, P sink → P (some (.added sink sample.kind sample.value))) :
    P ((recorder.record sample).1.sinks.get? key) := by
  have served (recordable : sample.value.isUnrecordable = false) {keys : List String}
      (among : ∀ other ∈ keys, other ∈ recorder.keysOf sample) :
      P ((recorder.addingAll sample.kind sample.value keys).sinks.get? key) := by
    rw [get?_addingAll_count]
    by_cases inside : key ∈ keys
    · induction keys.count key with
      | zero => exact before
      | succ count ih =>
        rw [Function.iterate_succ_apply']
        exact adds recordable (among key inside) _ ih
    · rw [List.count_eq_zero_of_not_mem inside]
      exact before
  generalize result : recorder.record sample = after
  cases result ▸ record_outcome recorder sample with
  | dropped | nonFinite => exact before
  | taken unsealed recordable =>
    rw [(tally_frame ..).1]
    exact served recordable fun _ => id
  | mismatch unsealed recordable split =>
    refine served recordable fun other member => ?_
    rw [split]
    exact List.mem_append_left _ member

/-- **The same for many samples.** -/
theorem get?_recordAll_of {samples : List (Sample α)} (before : P (recorder.sinks.get? key))
    (adds : ∀ sample ∈ samples, sample.value.isUnrecordable = false →
      key ∈ recorder.keysOf sample → ∀ sink, P sink →
        P (some (.added sink sample.kind sample.value))) :
    P ((recorder.recordAll samples).sinks.get? key) := by
  induction samples generalizing recorder with
  | nil => exact before
  | cons sample rest ih =>
    refine ih (get?_record_of before (adds sample List.mem_cons_self)) fun other member => ?_
    rw [keysOf_congr (submetrics_record recorder sample)]
    exact adds other (List.mem_cons_of_mem _ member)

/-! ### Values -/

/-- **What is kept of a metric are values that can be recorded.** -/
theorem exists_values (selectors : List Selector) (samples : List (Sample α)) {sink : Sink α}
    (found : ((new selectors).recordAll samples).sinks.get? key = some sink) :
    ∃ kind values, Measured.Recordable values ∧ sink = Sink.ofValues kind values := by
  refine get?_recordAll_of (P := fun kept => ∀ sink, kept = some sink →
    ∃ kind values, Measured.Recordable values ∧ sink = Sink.ofValues kind values) ?_ ?_ sink found
  · intro sink found
    rw [get?_new] at found
    obtain ⟨kind, -, rfl⟩ := Option.map_eq_some_iff.1 found
    exact ⟨kind, [], nofun, rfl⟩
  · intro sample _ recordable _ kept before sink same
    obtain rfl := Option.some.inj same
    cases kept with
    | none => exact ⟨sample.kind, [sample.value], List.forall_mem_singleton.2 recordable, rfl⟩
    | some old =>
      obtain ⟨kind, values, all, rfl⟩ := before old rfl
      refine ⟨kind, values ++ [sample.value], ?_, (List.foldl_concat ..).symm⟩
      exact List.forall_mem_append.2 ⟨all, List.forall_mem_singleton.2 recordable⟩

/-- **Later samples add values to a metric**, each of a sample that has its key. -/
theorem exists_more (samples : List (Sample α)) {sink : Sink α}
    (found : recorder.sinks.get? key = some sink) :
    ∃ more, Measured.Recordable more ∧
      (recorder.recordAll samples).sinks.get? key = some (more.foldl Sink.push sink) ∧
        ∀ value ∈ more, ∃ sample ∈ samples, key ∈ recorder.keysOf sample ∧ sample.value = value := by
  refine get?_recordAll_of (P := fun kept => ∃ more, Measured.Recordable more ∧
    kept = some (more.foldl Sink.push sink) ∧ ∀ value ∈ more, ∃ sample ∈ samples,
      key ∈ recorder.keysOf sample ∧ sample.value = value) ⟨[], nofun, found, nofun⟩ ?_
  rintro sample member recordable named kept ⟨more, all, rfl, origins⟩
  refine ⟨more ++ [sample.value], ?_, ?_, ?_⟩
  · exact List.forall_mem_append.2 ⟨all, List.forall_mem_singleton.2 recordable⟩
  · rw [List.foldl_append]
    rfl
  · exact List.forall_mem_append.2
      ⟨origins, List.forall_mem_singleton.2 ⟨sample, member, named, rfl⟩⟩

end Recorder

end LoadTest
