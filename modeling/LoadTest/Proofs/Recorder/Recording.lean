/-
**What one sample does to a recorder.**

A recorder that is not sealed takes a sample when it is a finite number or a flag and its metric has
no other kind; the sample is then added once under each of its keys. A submetric has the kind of its
metric, so a sample that its metric takes is taken by all its submetrics too, and one that is
refused leaves the recorder as it was.

* `Recorder.Aligned`: submetrics are apart and have the kinds of their metrics;
* `Recorder.record_accepted`, `Recorder.record_refused`, `Recorder.record_sealed`: the outcomes;
* `Recorder.aligned_record`: alignment is kept.
-/

import Mathlib.Data.List.Nodup
import Mathlib.Logic.Function.Iterate
import LoadTest.Proofs.Metric.SelectorOrder
import LoadTest.Proofs.Metric.SelectorText

set_option linter.unusedSectionVars false

namespace LoadTest

namespace Sink

variable {α : Type} [Scalar α]

/-- One more value for a metric, whose first value decides about its kind. -/
def added (sink : Option (Sink α)) (kind : MetricKind) (value : Measured α) : Sink α :=
  (sink.getD (.empty kind)).push value

theorem kind_added {sink : Option (Sink α)} {kind : MetricKind} (value : Measured α)
    (same : ∀ found, sink = some found → found.kind = kind) :
    (added sink kind value).kind = kind := by
  unfold added
  rw [kind_push]
  cases sink with
  | none => exact kind_empty kind
  | some found => exact same found rfl

end Sink

namespace Recorder

open Selector

variable {α : Type} [Scalar α] {recorder : Recorder α} {sample : Sample α}

/-! ### One key -/

/-- The metric under a key has no other kind. -/
def Admits (recorder : Recorder α) (kind : MetricKind) (key : String) : Prop :=
  ∀ sink, recorder.sinks.get? key = some sink → sink.kind = kind

/-- The recorder with one more value under a key. -/
def adding (recorder : Recorder α) (kind : MetricKind) (value : Measured α) (key : String) :
    Recorder α :=
  { recorder with
    sinks := recorder.sinks.insert key (.added (recorder.sinks.get? key) kind value) }

theorem kind_getD_iff {kind : MetricKind} {key : String} :
    ((recorder.sinks.get? key).getD (.empty kind)).kind = kind ↔ recorder.Admits kind key := by
  unfold Admits
  cases recorder.sinks.get? key with
  | none => simp
  | some sink => simp

theorem push_admitted {kind : MetricKind} {key : String} (admitted : recorder.Admits kind key)
    (value : Measured α) : recorder.push key kind value = .ok (recorder.adding kind value key) :=
  if_pos (kind_getD_iff.mpr admitted)

theorem push_refused {kind : MetricKind} {key : String} (refused : ¬ recorder.Admits kind key)
    (value : Measured α) : ∃ fault, recorder.push key kind value = .error fault :=
  ⟨_, if_neg fun same => refused (kind_getD_iff.mp same)⟩

theorem get?_adding (recorder : Recorder α) (kind : MetricKind) (value : Measured α)
    (key other : String) : (recorder.adding kind value key).sinks.get? other =
      if other = key then some (.added (recorder.sinks.get? key) kind value)
      else recorder.sinks.get? other :=
  Table.get?_insert ..

/-- A value of some kind does not keep a key from taking another one of that kind. -/
theorem admits_adding {kind : MetricKind} {key other : String} (admitted : recorder.Admits kind key)
    (others : recorder.Admits kind other) (value : Measured α) :
    (recorder.adding kind value key).Admits kind other := by
  intro sink found
  rw [get?_adding] at found
  by_cases same : other = key
  · rw [if_pos same] at found
    rw [← Option.some.inj found]
    exact Sink.kind_added value admitted
  · rw [if_neg same] at found
    exact others sink found

/-! ### Many keys -/

/-- The recorder with one more value under each of some keys. -/
def addingAll (recorder : Recorder α) (kind : MetricKind) (value : Measured α)
    (keys : List String) : Recorder α :=
  keys.foldl (fun recorder key => recorder.adding kind value key) recorder

theorem pushAll_admitted {kind : MetricKind} {keys : List String}
    (admitted : ∀ key ∈ keys, recorder.Admits kind key) (value : Measured α) :
    recorder.pushAll kind value keys = (recorder.addingAll kind value keys, none) := by
  induction keys generalizing recorder with
  | nil => rfl
  | cons key rest ih =>
    have first := admitted key List.mem_cons_self
    unfold pushAll
    rw [push_admitted first]
    exact ih fun other member =>
      admits_adding first (admitted other (List.mem_cons_of_mem _ member)) value

/-- Under each key there is one more value for every time that the key comes. -/
theorem get?_addingAll_count (recorder : Recorder α) (kind : MetricKind) (value : Measured α)
    (keys : List String) (key : String) : (recorder.addingAll kind value keys).sinks.get? key =
      (fun sink => some (Sink.added sink kind value))^[keys.count key]
        (recorder.sinks.get? key) := by
  induction keys generalizing recorder with
  | nil => rfl
  | cons first rest ih =>
    show ((recorder.adding kind value first).addingAll kind value rest).sinks.get? key = _
    rw [ih, get?_adding, List.count_cons]
    by_cases same : key = first
    · rw [if_pos same, if_pos (beq_iff_eq.mpr same.symm), Function.iterate_succ_apply, same]
    · rw [if_neg same, if_neg fun equal => same (beq_iff_eq.mp equal).symm, Nat.add_zero]

theorem get?_addingAll {keys : List String} (apart : keys.Nodup) (recorder : Recorder α)
    (kind : MetricKind) (value : Measured α) (key : String) :
    (recorder.addingAll kind value keys).sinks.get? key =
      if key ∈ keys then some (.added (recorder.sinks.get? key) kind value)
      else recorder.sinks.get? key := by
  rw [get?_addingAll_count]
  by_cases inside : key ∈ keys
  · rw [List.count_eq_one_of_mem apart inside, if_pos inside]
    rfl
  · rw [List.count_eq_zero_of_not_mem inside, if_neg inside]
    rfl

theorem addingAll_frame (recorder : Recorder α) (kind : MetricKind) (value : Measured α)
    (keys : List String) : (recorder.addingAll kind value keys).submetrics = recorder.submetrics ∧
      (recorder.addingAll kind value keys).sealedAt = recorder.sealedAt ∧
      (recorder.addingAll kind value keys).dropped = recorder.dropped ∧
      (recorder.addingAll kind value keys).checks = recorder.checks := by
  induction keys generalizing recorder with
  | nil => exact ⟨rfl, rfl, rfl, rfl⟩
  | cons key rest ih => exact ih (recorder.adding kind value key)

theorem tally_frame (recorder : Recorder α) (sample : Sample α) :
    (recorder.tally sample).sinks = recorder.sinks ∧
      (recorder.tally sample).submetrics = recorder.submetrics ∧
      (recorder.tally sample).sealedAt = recorder.sealedAt ∧
      (recorder.tally sample).dropped = recorder.dropped := by
  unfold tally
  split
  · exact ⟨rfl, rfl, rfl, rfl⟩
  · exact ⟨rfl, rfl, rfl, rfl⟩

/-! ### The keys of a sample -/

/-- **Submetrics are apart, and each has the kind of its metric.** -/
structure Aligned (recorder : Recorder α) : Prop where
  legible : ∀ selector ∈ recorder.submetrics, Legible selector
  tagged : ∀ selector ∈ recorder.submetrics, selector.isSubmetric = true
  apart : recorder.submetrics.Nodup
  kinds : ∀ selector ∈ recorder.submetrics, ∀ sink, recorder.sinks.get? selector.show = some sink →
    ∃ whole, recorder.sinks.get? selector.name = some whole ∧ whole.kind = sink.kind

theorem show_mem_keysOf (aligned : recorder.Aligned) (plain : Plain sample.metric)
    {selector : Selector} (member : selector ∈ recorder.submetrics) :
    selector.show ∈ recorder.keysOf sample ↔
      selector.matches sample.metric sample.tags = true := by
  unfold keysOf
  rw [List.mem_cons, List.mem_map]
  constructor
  · rintro (same | ⟨other, inside, same⟩)
    · exact absurd (same ▸ plain) (not_plain_show (aligned.tagged selector member))
    · obtain ⟨kept, belongs⟩ := List.mem_filter.mp inside
      obtain rfl :=
        show_injective (aligned.legible other kept) (aligned.legible selector member) same
      exact belongs
  · intro belongs
    exact .inr ⟨selector, List.mem_filter.mpr ⟨member, belongs⟩, rfl⟩

theorem plain_mem_keysOf (aligned : recorder.Aligned) {name : String} (plain : Plain name) :
    name ∈ recorder.keysOf sample ↔ name = sample.metric := by
  unfold keysOf
  rw [List.mem_cons, List.mem_map]
  constructor
  · rintro (same | ⟨selector, inside, same⟩)
    · exact same
    · have kept := (List.mem_filter.mp inside).1
      exact absurd (same ▸ plain) (not_plain_show (aligned.tagged selector kept))
  · exact .inl

/-- No key of a sample comes twice. -/
theorem nodup_keysOf (aligned : recorder.Aligned) (plain : Plain sample.metric) :
    (recorder.keysOf sample).Nodup := by
  unfold keysOf
  refine List.nodup_cons.mpr ⟨?_, ?_⟩
  · intro member
    obtain ⟨selector, inside, same⟩ := List.mem_map.mp member
    have kept := (List.mem_filter.mp inside).1
    exact not_plain_show (aligned.tagged selector kept) (same ▸ plain)
  · refine (List.pairwise_map).mpr (((aligned.apart).filter _).imp_of_mem ?_)
    intro first second inside others differ same
    have legible := aligned.legible first (List.mem_filter.mp inside).1
    have otherLegible := aligned.legible second (List.mem_filter.mp others).1
    exact differ (show_injective legible otherLegible same)

theorem name_of_matches {selector : Selector} {metric : String} {tags : Tags}
    (belongs : selector.matches metric tags = true) : selector.name = metric := by
  unfold «matches» at belongs
  exact of_decide_eq_true (Bool.and_eq_true_iff.mp belongs).1

/-- What the metric takes, its submetrics take. -/
theorem admits_keysOf (aligned : recorder.Aligned)
    (admitted : recorder.Admits sample.kind sample.metric) :
    ∀ key ∈ recorder.keysOf sample, recorder.Admits sample.kind key := by
  intro key member sink found
  rcases List.mem_cons.mp member with rfl | submetric
  · exact admitted sink found
  · obtain ⟨selector, inside, rfl⟩ := List.mem_map.mp submetric
    obtain ⟨kept, belongs⟩ := List.mem_filter.mp inside
    obtain ⟨whole, isWhole, same⟩ := aligned.kinds selector kept sink found
    rw [name_of_matches belongs] at isWhole
    rw [← same]
    exact admitted whole isWhole

/-! ### One sample -/

theorem record_sealed (closed : recorder.isSealed = true) (sample : Sample α) :
    recorder.record sample = ({ recorder with dropped := recorder.dropped + 1 }, none) :=
  if_pos closed

theorem record_admitted (open? : recorder.isSealed = false)
    (recordable : sample.value.isUnrecordable = false)
    (admitted : ∀ key ∈ recorder.keysOf sample, recorder.Admits sample.kind key) :
    recorder.record sample =
      ((recorder.addingAll sample.kind sample.value (recorder.keysOf sample)).tally sample, none) := by
  unfold record
  rw [open?, recordable, pushAll_admitted admitted]
  rfl

theorem record_mismatch (open? : recorder.isSealed = false)
    (refused : ¬ recorder.Admits sample.kind sample.metric) :
    ∃ fault, recorder.record sample = (recorder, some fault) := by
  obtain ⟨fault, isFault⟩ := push_refused refused sample.value
  unfold record
  rw [open?, if_neg Bool.false_ne_true]
  by_cases unrecordable : sample.value.isUnrecordable = true
  · rw [if_pos unrecordable]
    exact ⟨_, rfl⟩
  · rw [if_neg unrecordable]
    unfold keysOf pushAll
    rw [isFault]
    exact ⟨fault, rfl⟩

/-- **A sample that is taken is added once under each of its keys.** -/
theorem record_accepted (aligned : recorder.Aligned) (accepted : recorder.accepts sample = true) :
    recorder.isSealed = false ∧ recorder.Admits sample.kind sample.metric ∧
      (recorder.record sample).1 =
        (recorder.addingAll sample.kind sample.value (recorder.keysOf sample)).tally sample := by
  obtain ⟨unsealed, silent⟩ := Bool.and_eq_true_iff.mp accepted
  have open? : recorder.isSealed = false := by simpa using unsealed
  by_cases admitted : recorder.Admits sample.kind sample.metric
  · refine ⟨open?, admitted, ?_⟩
    cases unrecordable : sample.value.isUnrecordable with
    | false => rw [record_admitted open? unrecordable (admits_keysOf aligned admitted)]
    | true =>
      unfold record at silent
      rw [open?, unrecordable] at silent
      contradiction
  · obtain ⟨fault, refused⟩ := record_mismatch open? admitted
    rw [refused] at silent
    contradiction

/-- **A sample that is not taken leaves every metric as it was.** -/
theorem record_refused (aligned : recorder.Aligned) (refused : recorder.accepts sample = false) :
    (recorder.record sample).1.sinks = recorder.sinks ∧
      (recorder.record sample).1.submetrics = recorder.submetrics ∧
      (recorder.record sample).1.sealedAt = recorder.sealedAt := by
  cases closed : recorder.isSealed with
  | true =>
    rw [record_sealed closed]
    exact ⟨rfl, rfl, rfl⟩
  | false =>
    by_cases admitted : recorder.Admits sample.kind sample.metric
    · cases unrecordable : sample.value.isUnrecordable with
      | true =>
        unfold record
        rw [closed, unrecordable]
        exact ⟨rfl, rfl, rfl⟩
      | false =>
        unfold accepts at refused
        rw [closed, record_admitted closed unrecordable (admits_keysOf aligned admitted)] at refused
        contradiction
    · obtain ⟨fault, same⟩ := record_mismatch closed admitted
      rw [same]
      exact ⟨rfl, rfl, rfl⟩

/-- What is found under a key once a sample was taken. -/
theorem get?_record (aligned : recorder.Aligned) (plain : Plain sample.metric)
    (accepted : recorder.accepts sample = true) (key : String) :
    (recorder.record sample).1.sinks.get? key = if key ∈ recorder.keysOf sample then
      some (.added (recorder.sinks.get? key) sample.kind sample.value)
    else recorder.sinks.get? key := by
  obtain ⟨-, -, after⟩ := record_accepted aligned accepted
  rw [after, (tally_frame ..).1, get?_addingAll (nodup_keysOf aligned plain)]

theorem record_frame (aligned : recorder.Aligned) (sample : Sample α) :
    (recorder.record sample).1.submetrics = recorder.submetrics ∧
      (recorder.record sample).1.sealedAt = recorder.sealedAt := by
  cases accepted : recorder.accepts sample with
  | false => exact (record_refused aligned accepted).2
  | true =>
    obtain ⟨-, -, after⟩ := record_accepted aligned accepted
    rw [after, (tally_frame ..).2.1, (tally_frame ..).2.2.1]
    exact ⟨(addingAll_frame ..).1, (addingAll_frame ..).2.1⟩

/-- **Every sample keeps submetrics and their metrics of one kind.** -/
theorem aligned_record (aligned : recorder.Aligned) (plain : Plain sample.metric) :
    (recorder.record sample).1.Aligned := by
  have frame := (record_frame aligned sample).1
  refine ⟨by rw [frame]; exact aligned.legible, by rw [frame]; exact aligned.tagged,
    by rw [frame]; exact aligned.apart, ?_⟩
  rw [frame]
  intro selector member sink found
  cases accepted : recorder.accepts sample with
  | false =>
    rw [(record_refused aligned accepted).1] at found ⊢
    exact aligned.kinds selector member sink found
  | true =>
    obtain ⟨-, admitted, -⟩ := record_accepted aligned accepted
    have wholeName : Plain selector.name := (aligned.legible selector member).name
    have metricKind := Sink.kind_added sample.value admitted
    rw [get?_record aligned plain accepted] at found ⊢
    by_cases belongs : selector.show ∈ recorder.keysOf sample
    · -- The sample went to the submetric, and so to its metric.
      have same : selector.name = sample.metric :=
        name_of_matches ((show_mem_keysOf aligned plain member).mp belongs)
      have submetricKind := Sink.kind_added sample.value (admits_keysOf aligned admitted _ belongs)
      rw [if_pos belongs] at found
      rw [if_pos ((plain_mem_keysOf aligned wholeName).mpr same), same]
      refine ⟨_, rfl, ?_⟩
      rw [← Option.some.inj found, metricKind, submetricKind]
    · rw [if_neg belongs] at found
      obtain ⟨whole, isWhole, kind⟩ := aligned.kinds selector member sink found
      by_cases same : selector.name = sample.metric
      · rw [if_pos ((plain_mem_keysOf aligned wholeName).mpr same)]
        refine ⟨_, rfl, ?_⟩
        rw [← kind, isWhole]
        exact Sink.kind_push ..
      · rw [if_neg fun inside => same ((plain_mem_keysOf aligned wholeName).mp inside)]
        exact ⟨whole, isWhole, kind⟩

end Recorder

end LoadTest
