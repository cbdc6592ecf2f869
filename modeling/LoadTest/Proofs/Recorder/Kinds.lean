/-
**The kinds that a recorder knows, and what becomes of a sample.**

A key has a kind from its first value on. A value is taken under a key that has its kind or none,
so all that decides about a sample are the kinds of its keys, whatever was kept under them. The
keys of a sample are served one after the other, and the first one of another kind ends it.

* `Recorder.kindOf?`: the kind under a key;
* `Recorder.kindOf?_addingAll`: the kinds once some keys have taken a value;
* `Recorder.Outcome`, `Recorder.record_outcome`: the four things that can become of a sample;
* `Recorder.kindOf?_record`, `Recorder.kindOf?_recordAll`: a key keeps its kind.
-/

import LoadTest.Proofs.Recorder.History

set_option linter.unusedSectionVars false

namespace LoadTest

namespace Recorder

variable {α : Type} [Scalar α] {recorder : Recorder α} {kind : MetricKind} {value : Measured α}

/-! ### Kinds -/

/-- The kind of the metric under a key. -/
def kindOf? (recorder : Recorder α) (key : String) : Option MetricKind :=
  (recorder.sinks.get? key).map Sink.kind

theorem kindOf?_new (selectors : List Selector) (key : String) :
    (Recorder.new selectors : Recorder α).kindOf? key = BuiltIn.all.lookup key := by
  unfold kindOf?
  rw [get?_new, Option.map_map]
  cases BuiltIn.all.lookup key with
  | none => rfl
  | some kind => exact congrArg some (Sink.kind_empty kind)

theorem admits_iff {key : String} :
    recorder.Admits kind key ↔ ∀ known, recorder.kindOf? key = some known → known = kind := by
  unfold Admits kindOf?
  cases recorder.sinks.get? key with
  | none => simp
  | some sink => simp

/-- A key that refuses a value has another kind. -/
theorem mismatch_of_not_admits (value : Measured α) {key : String}
    (refused : ¬ recorder.Admits kind key) :
    ∃ known, recorder.kindOf? key = some known ∧ known ≠ kind ∧
      recorder.push key kind value = .error (.kindMismatch key known kind) := by
  obtain ⟨sink, refused⟩ := Classical.not_forall.mp refused
  obtain ⟨found, other⟩ := Classical.not_imp.mp refused
  refine ⟨sink.kind, congrArg (Option.map Sink.kind) found, other, ?_⟩
  unfold push
  rw [found, Option.getD_some, if_neg other]

theorem kindOf?_adding {key : String} (admitted : recorder.Admits kind key) (value : Measured α)
    (other : String) : (recorder.adding kind value key).kindOf? other =
      if other = key then some kind else recorder.kindOf? other := by
  unfold kindOf?
  rw [get?_adding]
  by_cases same : other = key
  · rw [if_pos same, if_pos same, Option.map_some, Sink.kind_added value admitted]
  · rw [if_neg same, if_neg same]

/-- A value does not change what any key takes of its kind. -/
theorem admits_adding_iff {key other : String} (admitted : recorder.Admits kind key) :
    (recorder.adding kind value key).Admits kind other ↔ recorder.Admits kind other := by
  refine ⟨fun after => admits_iff.mpr fun known found => ?_, fun before =>
    admits_adding admitted before value⟩
  by_cases same : other = key
  · rw [same] at found
    exact admits_iff.mp admitted known found
  · refine admits_iff.mp after known ?_
    rw [kindOf?_adding admitted, if_neg same, found]

/-- **The kinds once some keys have taken a value.** A key that comes twice counts once. -/
theorem kindOf?_addingAll {keys : List String}
    (admitted : ∀ key ∈ keys, recorder.Admits kind key) (value : Measured α) (other : String) :
    (recorder.addingAll kind value keys).kindOf? other =
      if other ∈ keys then some kind else recorder.kindOf? other := by
  induction keys generalizing recorder with
  | nil => exact (if_neg List.not_mem_nil).symm
  | cons first rest ih =>
    have taken := admitted first List.mem_cons_self
    have later : ∀ key ∈ rest, (recorder.adding kind value first).Admits kind key :=
      fun key member => (admits_adding_iff taken).mpr (admitted key (List.mem_cons_of_mem _ member))
    show ((recorder.adding kind value first).addingAll kind value rest).kindOf? other = _
    rw [ih later, kindOf?_adding taken]
    by_cases inside : other ∈ rest
    · rw [if_pos inside, if_pos (List.mem_cons_of_mem _ inside)]
    · by_cases same : other = first
      · rw [if_neg inside, if_pos same, if_pos (same ▸ List.mem_cons_self)]
      · rw [if_neg inside, if_neg same,
          if_neg (by rw [List.mem_cons, not_or]; exact ⟨same, inside⟩)]

theorem kindOf?_tally (recorder : Recorder α) (sample : Sample α) (key : String) :
    (recorder.tally sample).kindOf? key = recorder.kindOf? key := by
  unfold kindOf?
  rw [(tally_frame recorder sample).1]

/-! ### What becomes of a sample -/

/-- Keys that do not all take a value: those before the first that refuses it have taken it. -/
theorem pushAll_mismatch {keys : List String}
    (refused : ¬ ∀ key ∈ keys, recorder.Admits kind key) (value : Measured α) :
    ∃ served key waiting known, keys = served ++ key :: waiting ∧
      (∀ other ∈ served, recorder.Admits kind other) ∧
      recorder.kindOf? key = some known ∧ known ≠ kind ∧
      recorder.pushAll kind value keys =
        (recorder.addingAll kind value served, some (.kindMismatch key known kind)) := by
  induction keys generalizing recorder with
  | nil => exact absurd (fun key member => absurd member List.not_mem_nil) refused
  | cons first rest ih =>
    unfold pushAll
    by_cases taken : recorder.Admits kind first
    · have stuck : ¬ ∀ key ∈ rest, (recorder.adding kind value first).Admits kind key := by
        intro admitted
        refine refused fun key member => ?_
        rcases List.mem_cons.mp member with rfl | later
        · exact taken
        · exact (admits_adding_iff taken).mp (admitted key later)
      obtain ⟨served, key, waiting, known, split, admitted, found, other, result⟩ := ih stuck
      have before : recorder.kindOf? key = some known := by
        rw [kindOf?_adding taken] at found
        by_cases same : key = first
        · rw [if_pos same] at found
          exact absurd (Option.some.inj found).symm other
        · rw [if_neg same] at found
          exact found
      refine ⟨first :: served, key, waiting, known, by rw [split, List.cons_append], ?_, before,
        other, ?_⟩
      · intro one member
        rcases List.mem_cons.mp member with rfl | later
        · exact taken
        · exact (admits_adding_iff taken).mp (admitted one later)
      · rw [push_admitted taken]
        exact result
    · obtain ⟨known, found, other, fault⟩ := mismatch_of_not_admits value taken
      refine ⟨[], first, rest, known, rfl, fun one member => absurd member List.not_mem_nil, found,
        other, ?_⟩
      rw [fault]
      rfl

/-- **What can become of a sample**: it is thrown away, it is no finite number, every key takes it,
or some keys have taken it when one of another kind comes. -/
inductive Outcome (recorder : Recorder α) (sample : Sample α) :
    Recorder α × Option RecordFault → Prop
  | dropped (closed : recorder.isSealed = true) :
    Outcome recorder sample ({ recorder with dropped := recorder.dropped + 1 }, none)
  | nonFinite (unsealed : recorder.isSealed = false)
      (unrecordable : sample.value.isUnrecordable = true) :
    Outcome recorder sample (recorder, some (.nonFinite sample.metric))
  | taken (unsealed : recorder.isSealed = false)
      (recordable : sample.value.isUnrecordable = false)
      (admitted : ∀ key ∈ recorder.keysOf sample, recorder.Admits sample.kind key) :
    Outcome recorder sample
      ((recorder.addingAll sample.kind sample.value (recorder.keysOf sample)).tally sample, none)
  | mismatch (unsealed : recorder.isSealed = false)
      (recordable : sample.value.isUnrecordable = false) {served waiting : List String}
      {key : String} {known : MetricKind}
      (split : recorder.keysOf sample = served ++ key :: waiting)
      (admitted : ∀ other ∈ served, recorder.Admits sample.kind other)
      (found : recorder.kindOf? key = some known) (other : known ≠ sample.kind) :
    Outcome recorder sample (recorder.addingAll sample.kind sample.value served,
      some (.kindMismatch key known sample.kind))

theorem record_outcome (recorder : Recorder α) (sample : Sample α) :
    recorder.Outcome sample (recorder.record sample) := by
  cases closed : recorder.isSealed with
  | true =>
    rw [record_sealed closed]
    exact .dropped closed
  | false =>
    cases unrecordable : sample.value.isUnrecordable with
    | true =>
      have result : recorder.record sample = (recorder, some (.nonFinite sample.metric)) := by
        unfold record
        rw [closed, if_neg Bool.false_ne_true, if_pos unrecordable]
      rw [result]
      exact .nonFinite closed unrecordable
    | false =>
      by_cases admitted : ∀ key ∈ recorder.keysOf sample, recorder.Admits sample.kind key
      · rw [record_admitted closed unrecordable admitted]
        exact .taken closed unrecordable admitted
      · obtain ⟨served, key, waiting, known, split, before, found, other, result⟩ :=
          pushAll_mismatch admitted sample.value
        have faulty : recorder.record sample =
            (recorder.addingAll sample.kind sample.value served,
              some (.kindMismatch key known sample.kind)) := by
          unfold record
          rw [closed, if_neg Bool.false_ne_true, unrecordable, if_neg Bool.false_ne_true, result]
        rw [faulty]
        exact .mismatch closed unrecordable split before found other

/-! ### A kind stays -/

theorem kindOf?_addingAll_of_known {keys : List String}
    (admitted : ∀ key ∈ keys, recorder.Admits kind key) (value : Measured α) {key : String}
    {known : MetricKind} (found : recorder.kindOf? key = some known) :
    (recorder.addingAll kind value keys).kindOf? key = some known := by
  rw [kindOf?_addingAll admitted]
  by_cases inside : key ∈ keys
  · rw [if_pos inside, admits_iff.mp (admitted key inside) known found]
  · rw [if_neg inside, found]

/-- **A key keeps its kind**, whatever becomes of a sample. -/
theorem kindOf?_record {key : String} {known : MetricKind}
    (found : recorder.kindOf? key = some known) (sample : Sample α) :
    (recorder.record sample).1.kindOf? key = some known := by
  generalize result : recorder.record sample = after
  cases result ▸ record_outcome recorder sample with
  | dropped | nonFinite => exact found
  | taken unsealed recordable admitted =>
    rw [kindOf?_tally]
    exact kindOf?_addingAll_of_known admitted _ found
  | mismatch unsealed recordable split admitted =>
    exact kindOf?_addingAll_of_known admitted _ found

theorem kindOf?_recordAll {key : String} {known : MetricKind} (samples : List (Sample α))
    (found : recorder.kindOf? key = some known) :
    (recorder.recordAll samples).kindOf? key = some known := by
  induction samples generalizing recorder with
  | nil => exact found
  | cons sample rest ih => exact @ih (recorder.record sample).1 (kindOf?_record found sample)

end Recorder

end LoadTest
