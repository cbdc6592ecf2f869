/-
**Samples that are all taken.**

An open recorder takes all of some samples exactly if they can be recorded and agree with each other
and with what is kept on a kind for every key. What is then kept under a key is what its samples
come to, added one by one, and what is kept of the checks are the outcomes of all samples.

* `Recorder.takesAll`: whether samples are all taken, one after the other;
* `Recorder.Fits`: the kinds on which they agree;
* `Recorder.takesAll_iff`: samples are all taken if and only if there are such kinds;
* `Recorder.kept_recordAll`, `Recorder.tallied_recordAll`: what is kept of them.
-/

import LoadTest.Proofs.Recorder.Kinds

set_option linter.unusedSectionVars false

namespace LoadTest

namespace Recorder

variable {α : Type} [Scalar α] {recorder : Recorder α} {kinds : String → MetricKind}

/-! ### A kind for every key -/

/-- Whether some samples are recorded one after the other and none of them meets a fault. -/
def takesAll (recorder : Recorder α) : List (Sample α) → Bool
  | [] => true
  | sample :: rest => (recorder.record sample).2.isNone && (recorder.record sample).1.takesAll rest

/-- **Samples that agree on a kind for every key**, with each other and with what is kept. -/
structure Fits (recorder : Recorder α) (kinds : String → MetricKind) (samples : List (Sample α)) :
    Prop where
  kept : ∀ key known, recorder.kindOf? key = some known → known = kinds key
  recordable : ∀ sample ∈ samples, sample.value.isUnrecordable = false
  agree : ∀ sample ∈ samples, ∀ key ∈ recorder.keysOf sample, sample.kind = kinds key

/-- The order of the samples does not matter. -/
theorem Fits.perm {samples others : List (Sample α)} (fits : recorder.Fits kinds samples)
    (same : samples.Perm others) : recorder.Fits kinds others :=
  ⟨fits.kept, fun sample member => fits.recordable sample (same.mem_iff.mpr member),
    fun sample member => fits.agree sample (same.mem_iff.mpr member)⟩

/-- The recorder once a sample is taken. -/
def taking (recorder : Recorder α) (sample : Sample α) : Recorder α :=
  (recorder.addingAll sample.kind sample.value (recorder.keysOf sample)).tally sample

theorem taking_frame (recorder : Recorder α) (sample : Sample α) :
    (recorder.taking sample).submetrics = recorder.submetrics ∧
      (recorder.taking sample).sealedAt = recorder.sealedAt := by
  unfold taking
  obtain ⟨-, submetrics, closing, -⟩ := tally_frame
    (recorder.addingAll sample.kind sample.value (recorder.keysOf sample)) sample
  obtain ⟨same, still, -⟩ :=
    addingAll_frame recorder sample.kind sample.value (recorder.keysOf sample)
  exact ⟨submetrics.trans same, closing.trans still⟩

theorem keysOf_congr {recorder other : Recorder α} (same : other.submetrics = recorder.submetrics)
    (sample : Sample α) : other.keysOf sample = recorder.keysOf sample := by
  unfold keysOf
  rw [same]

theorem isSealed_congr {recorder other : Recorder α} (same : other.sealedAt = recorder.sealedAt) :
    other.isSealed = recorder.isSealed := by
  unfold isSealed
  rw [same]

theorem kindOf?_taking {sample : Sample α}
    (admitted : ∀ key ∈ recorder.keysOf sample, recorder.Admits sample.kind key) (key : String) :
    (recorder.taking sample).kindOf? key =
      if key ∈ recorder.keysOf sample then some sample.kind else recorder.kindOf? key := by
  unfold taking
  rw [kindOf?_tally, kindOf?_addingAll admitted]

section Next

variable {sample : Sample α} {rest : List (Sample α)}

theorem Fits.admits (fits : recorder.Fits kinds (sample :: rest)) :
    ∀ key ∈ recorder.keysOf sample, recorder.Admits sample.kind key := by
  intro key member
  refine admits_iff.mpr fun known found => ?_
  rw [fits.kept key known found, fits.agree sample List.mem_cons_self key member]

/-- **The first of samples that fit is taken, and the others still fit.** -/
theorem Fits.next (fits : recorder.Fits kinds (sample :: rest))
    (unsealed : recorder.isSealed = false) :
    recorder.record sample = (recorder.taking sample, none) ∧
      (recorder.taking sample).Fits kinds rest ∧ (recorder.taking sample).isSealed = false := by
  obtain ⟨submetrics, closing⟩ := taking_frame recorder sample
  refine ⟨record_admitted unsealed (fits.recordable sample List.mem_cons_self) fits.admits,
    ⟨fun key known found => ?_, fun other member => ?_, fun other member key => ?_⟩,
    (isSealed_congr closing).trans unsealed⟩
  · rw [kindOf?_taking fits.admits] at found
    by_cases inside : key ∈ recorder.keysOf sample
    · rw [if_pos inside] at found
      rw [← Option.some.inj found, fits.agree sample List.mem_cons_self key inside]
    · rw [if_neg inside] at found
      exact fits.kept key known found
  · exact fits.recordable other (List.mem_cons_of_mem _ member)
  · rw [keysOf_congr submetrics]
    exact fits.agree other (List.mem_cons_of_mem _ member) key

/-- A sample without a fault has a kind that its keys have from then on. -/
theorem Fits.of_next (unsealed : recorder.isSealed = false)
    (silent : (recorder.record sample).2 = none)
    (fits : (recorder.record sample).1.Fits kinds rest) : recorder.Fits kinds (sample :: rest) := by
  generalize result : recorder.record sample = after at silent fits
  cases result ▸ record_outcome recorder sample with
  | dropped closed => exact absurd (unsealed.symm.trans closed) Bool.false_ne_true
  | nonFinite unsealed unrecordable => contradiction
  | mismatch unsealed recordable split admitted found other => contradiction
  | taken unsealed recordable admitted =>
    replace fits : (recorder.taking sample).Fits kinds rest := fits
    have own : ∀ key ∈ recorder.keysOf sample, sample.kind = kinds key := fun key member =>
      fits.kept key sample.kind (by rw [kindOf?_taking admitted, if_pos member])
    refine ⟨fun key known found => ?_, fun other member => ?_, fun other member => ?_⟩
    · by_cases inside : key ∈ recorder.keysOf sample
      · rw [← own key inside]
        exact admits_iff.mp (admitted key inside) known found
      · exact fits.kept key known (by rw [kindOf?_taking admitted, if_neg inside, found])
    · rcases List.mem_cons.mp member with rfl | later
      · exact recordable
      · exact fits.recordable other later
    · rcases List.mem_cons.mp member with rfl | later
      · exact own
      · intro key inside
        refine fits.agree other later key ?_
        rw [keysOf_congr (taking_frame recorder sample).1]
        exact inside

end Next

/-- **Samples are all taken if and only if they agree on a kind for every key.** -/
theorem takesAll_iff {samples : List (Sample α)} (unsealed : recorder.isSealed = false) :
    recorder.takesAll samples = true ↔ ∃ kinds, recorder.Fits kinds samples := by
  induction samples generalizing recorder with
  | nil =>
    refine ⟨fun _ => ⟨fun key => (recorder.kindOf? key).getD .counter, fun key known found => ?_,
      fun sample member => absurd member List.not_mem_nil,
      fun sample member => absurd member List.not_mem_nil⟩, fun _ => rfl⟩
    rw [found, Option.getD_some]
  | cons sample rest ih =>
    unfold takesAll
    rw [Bool.and_eq_true_iff, Option.isNone_iff_eq_none]
    constructor
    · rintro ⟨silent, taken⟩
      have open? : (recorder.record sample).1.isSealed = false := by
        generalize result : recorder.record sample = after at silent
        cases result ▸ record_outcome recorder sample with
        | dropped closed => exact absurd (unsealed.symm.trans closed) Bool.false_ne_true
        | nonFinite unsealed unrecordable => exact unsealed
        | mismatch unsealed recordable split admitted found other => contradiction
        | taken unsealed recordable admitted =>
          exact (isSealed_congr (taking_frame recorder sample).2).trans unsealed
      obtain ⟨kinds, fits⟩ := (ih open?).mp taken
      exact ⟨kinds, .of_next unsealed silent fits⟩
    · rintro ⟨kinds, fits⟩
      obtain ⟨result, later, open?⟩ := fits.next unsealed
      rw [result]
      exact ⟨rfl, (ih open?).mpr ⟨kinds, later⟩⟩

/-- Of samples that are not all taken, the first that is refused comes after some that are. -/
theorem exists_refused {samples : List (Sample α)} (notAll : recorder.takesAll samples = false) :
    ∃ taken refused later fault, samples = taken ++ refused :: later ∧
      recorder.takesAll taken = true ∧
      ((recorder.recordAll taken).record refused).2 = some fault := by
  induction samples generalizing recorder with
  | nil => contradiction
  | cons sample rest ih =>
    cases own : (recorder.record sample).2 with
    | some fault => exact ⟨[], sample, rest, fault, rfl, rfl, own⟩
    | none =>
      rw [takesAll, own, Option.isNone_none, Bool.true_and] at notAll
      obtain ⟨taken, refused, later, fault, split, accepted, isFault⟩ := ih notAll
      refine ⟨sample :: taken, refused, later, fault, by rw [split, List.cons_append], ?_, isFault⟩
      rw [takesAll, own, Option.isNone_none, Bool.true_and, accepted]

/-! ### What is kept -/

theorem foldl_grown_replicate (sample : Sample α) (count : ℕ) (sink : Option (Sink α)) :
    (List.replicate count sample).foldl grown sink =
      (fun sink => some (Sink.added sink sample.kind sample.value))^[count] sink := by
  induction count generalizing sink with
  | zero => rfl
  | succ count ih => exact ih _

/-- The samples under a key, each as often as the key is one of its own. -/
def under (recorder : Recorder α) (key : String) (samples : List (Sample α)) : List (Sample α) :=
  samples.flatMap fun sample => List.replicate ((recorder.keysOf sample).count key) sample

theorem under_congr {recorder other : Recorder α} (same : other.submetrics = recorder.submetrics)
    (key : String) (samples : List (Sample α)) :
    other.under key samples = recorder.under key samples := by
  unfold under
  refine congrArg (fun copies => samples.flatMap copies) (funext fun sample => ?_)
  rw [keysOf_congr same]

theorem mem_under {key : String} {samples : List (Sample α)} {sample : Sample α}
    (member : sample ∈ recorder.under key samples) :
    sample ∈ samples ∧ key ∈ recorder.keysOf sample := by
  obtain ⟨other, inside, copies⟩ := List.mem_flatMap.mp member
  obtain ⟨some?, rfl⟩ := List.mem_replicate.mp copies
  exact ⟨inside, List.count_pos_iff.mp (Nat.pos_of_ne_zero some?)⟩

section All

variable {samples : List (Sample α)}

/-- **What is kept under a key of samples that are all taken.** -/
theorem kept_recordAll (unsealed : recorder.isSealed = false) (fits : recorder.Fits kinds samples)
    (key : String) : (recorder.recordAll samples).sinks.get? key =
      (recorder.under key samples).foldl grown (recorder.sinks.get? key) := by
  induction samples generalizing recorder with
  | nil => rfl
  | cons sample rest ih =>
    obtain ⟨result, later, open?⟩ := fits.next unsealed
    show ((recorder.record sample).1.recordAll rest).sinks.get? key = _
    rw [result, ih open? later, under_congr (taking_frame recorder sample).1]
    unfold taking under
    rw [(tally_frame ..).1, get?_addingAll_count, List.flatMap_cons, List.foldl_append,
      foldl_grown_replicate]

/-- The checks with the outcome of one more sample. -/
def tallied (checks : Table CheckTally) (sample : Sample α) : Table CheckTally :=
  match if sample.metric = BuiltIn.checks then sample.tags.get? "check" else none with
  | none => checks
  | some name => checks.insert name (((checks.get? name).getD .zero).add sample.value.holds)

theorem checks_taking (recorder : Recorder α) (sample : Sample α) :
    (recorder.taking sample).checks = tallied recorder.checks sample := by
  obtain ⟨-, -, -, same⟩ :=
    addingAll_frame recorder sample.kind sample.value (recorder.keysOf sample)
  unfold taking tally tallied
  rw [← same]
  cases if sample.metric = BuiltIn.checks then sample.tags.get? "check" else none with
  | none => rfl
  | some name => rfl

/-- **What is kept of the checks.** -/
theorem tallied_recordAll (unsealed : recorder.isSealed = false)
    (fits : recorder.Fits kinds samples) :
    (recorder.recordAll samples).checks = samples.foldl tallied recorder.checks := by
  induction samples generalizing recorder with
  | nil => rfl
  | cons sample rest ih =>
    obtain ⟨result, later, open?⟩ := fits.next unsealed
    show ((recorder.record sample).1.recordAll rest).checks = _
    rw [result, ih open? later, checks_taking]
    rfl

theorem sealedAt_recordAll (unsealed : recorder.isSealed = false)
    (fits : recorder.Fits kinds samples) :
    (recorder.recordAll samples).sealedAt = recorder.sealedAt := by
  induction samples generalizing recorder with
  | nil => rfl
  | cons sample rest ih =>
    obtain ⟨result, later, open?⟩ := fits.next unsealed
    show ((recorder.record sample).1.recordAll rest).sealedAt = _
    rw [result, ih open? later, (taking_frame recorder sample).2]

end All

end Recorder

end LoadTest
