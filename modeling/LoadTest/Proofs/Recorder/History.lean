/-
**What a recorder keeps of a history.**

A history is a list of samples that virtual users emit and of moments at which the recorder is
sealed. Under each key the recorder then keeps what the samples that it took and that belong to the
key come to, each added once and in their order.

* `Recorder.follow`: the recorder after a history;
* `Recorder.taken`: the samples of a history that were taken, as they were emitted;
* `Selector.covers`: whether an emitted sample belongs to a selector;
* `Recorder.kept_after`: what is kept for a selector.
-/

import LoadTest.Proofs.Recorder.Recording
import LoadTest.Proofs.Table

set_option linter.unusedSectionVars false

namespace LoadTest

open Selector

variable {α : Type}

/-- One thing that reaches a recorder at some time. -/
inductive Delivery (α : Type) where
  | emitted (now : Duration) (sample : Sample α)
  | closed (now : Duration)

/-- The sample that is emitted, if there is one. -/
def Delivery.sample? : Delivery α → Option (Sample α)
  | emitted _ sample => some sample
  | closed _ => none

/-- **Whether an emitted sample belongs to a selector**, a tag of its own counting before one of the
plan. -/
def Selector.covers (selector : Selector) (tags : Tags) (sample : Sample α) : Bool :=
  selector.name = sample.metric &&
    selector.tags.all fun tag => (sample.tags.get? tag.1).or (tags.get? tag.1) = some tag.2

theorem Selector.matches_withTags (selector : Selector) (tags : Tags) (sample : Sample α) :
    selector.matches sample.metric (sample.withTags tags).tags = selector.covers tags sample := by
  unfold «matches» covers
  simp only [Sample.get?_withTags]

namespace Recorder

variable [Scalar α] {recorder : Recorder α} {tags : Tags}

/-! ### Histories -/

/-- A sample as it is recorded: with the time and the tags of the plan. -/
def stamped (recorder : Recorder α) (tags : Tags) (now : Duration) (sample : Sample α) : Sample α :=
  { sample with offset := recorder.elapsed now }.withTags tags

/-- The recorder after one delivery. -/
def receive (recorder : Recorder α) (tags : Tags) : Delivery α → Recorder α
  | .emitted now sample => (recorder.record (recorder.stamped tags now sample)).1
  | .closed now => recorder.close now

/-- **The recorder after a history.** -/
def follow (recorder : Recorder α) (tags : Tags) (history : List (Delivery α)) : Recorder α :=
  history.foldl (fun recorder delivery => recorder.receive tags delivery) recorder

/-- The sample of a delivery, if it is taken. -/
def takes? (recorder : Recorder α) (tags : Tags) : Delivery α → Option (Sample α)
  | .emitted now sample =>
    if recorder.accepts (recorder.stamped tags now sample) then some sample else none
  | .closed _ => none

/-- **The samples of a history that are taken**, in their order. -/
def taken (recorder : Recorder α) (tags : Tags) : List (Delivery α) → List (Sample α)
  | [] => []
  | delivery :: rest =>
    (recorder.takes? tags delivery).toList ++ (recorder.receive tags delivery).taken tags rest

theorem taken_cons (recorder : Recorder α) (tags : Tags) (delivery : Delivery α)
    (rest : List (Delivery α)) : recorder.taken tags (delivery :: rest) =
      (recorder.takes? tags delivery).toList ++ (recorder.receive tags delivery).taken tags rest :=
  rfl

theorem aligned_receive (tags : Tags) (aligned : recorder.Aligned) {delivery : Delivery α}
    (plain : ∀ sample ∈ delivery.sample?, Plain sample.metric) :
    (recorder.receive tags delivery).Aligned := by
  cases delivery with
  | closed now => exact ⟨aligned.legible, aligned.tagged, aligned.apart, aligned.kinds⟩
  | emitted now sample => exact aligned_record aligned (plain sample rfl)

theorem submetrics_receive (aligned : recorder.Aligned) (delivery : Delivery α) :
    (recorder.receive tags delivery).submetrics = recorder.submetrics := by
  cases delivery with
  | closed now => rfl
  | emitted now sample => exact (record_frame aligned _).1

/-! ### What is kept -/

/-- A metric with one more sample. -/
def grown (sink : Option (Sink α)) (sample : Sample α) : Option (Sink α) :=
  some (.added sink sample.kind sample.value)

theorem foldl_grown (samples : List (Sample α)) (sink : Sink α) :
    samples.foldl grown (some sink) = some ((samples.map Sample.value).foldl Sink.push sink) := by
  induction samples generalizing sink with
  | nil => rfl
  | cons sample rest ih => exact ih (sink.push sample.value)

/-- Whether an emitted sample belongs under the key of a selector, as the recorder sees it. -/
theorem mem_keysOf_stamped (tags : Tags) (aligned : recorder.Aligned) {selector : Selector}
    (legible : Legible selector)
    (kept : selector.isSubmetric = true → selector ∈ recorder.submetrics) (now : Duration)
    {sample : Sample α} (plain : Plain sample.metric) :
    selector.show ∈ recorder.keysOf (recorder.stamped tags now sample) ↔
      selector.covers tags sample = true := by
  cases tagged : selector.isSubmetric with
  | true =>
    have plainStamped : Plain (recorder.stamped tags now sample).metric := plain
    rw [show_mem_keysOf aligned plainStamped (kept tagged)]
    exact Bool.eq_iff_iff.mp (matches_withTags selector tags { sample with offset := _ })
  | false =>
    rw [show_untagged tagged, plain_mem_keysOf aligned legible.name]
    unfold covers
    rw [tags_eq_nil tagged, List.all_nil, Bool.and_true, decide_eq_true_iff]
    exact Iff.rfl

/-- What one delivery adds for a selector. -/
theorem kept_receive (aligned : recorder.Aligned) {selector : Selector} (legible : Legible selector)
    (kept : selector.isSubmetric = true → selector ∈ recorder.submetrics) {delivery : Delivery α}
    (plain : ∀ sample ∈ delivery.sample?, Plain sample.metric) :
    (recorder.receive tags delivery).sinks.get? selector.show =
      ((recorder.takes? tags delivery).toList.filter fun sample => selector.covers tags sample).foldl
        grown (recorder.sinks.get? selector.show) := by
  cases delivery with
  | closed now => rfl
  | emitted now sample =>
    have plainSample : Plain (recorder.stamped tags now sample).metric := plain sample rfl
    show (recorder.record (recorder.stamped tags now sample)).1.sinks.get? selector.show = _
    cases accepted : recorder.accepts (recorder.stamped tags now sample) with
    | false =>
      have nothing : recorder.takes? tags (.emitted now sample) = none :=
        if_neg (by rw [accepted]; exact Bool.false_ne_true)
      rw [(record_refused aligned accepted).1, nothing]
      rfl
    | true =>
      have this : recorder.takes? tags (.emitted now sample) = some sample := if_pos accepted
      have belongs := mem_keysOf_stamped tags aligned legible kept now (plain sample rfl)
      rw [get?_record aligned plainSample accepted, this, Option.toList_some]
      by_cases covered : selector.covers tags sample = true
      · rw [if_pos (belongs.mpr covered), List.filter_cons_of_pos covered]
        rfl
      · rw [if_neg fun member => covered (belongs.mp member), List.filter_cons_of_neg covered]
        rfl

/-- **What is kept for a selector after a history**: the samples that were taken and that belong to
it, added to what was there. -/
theorem kept_after (aligned : recorder.Aligned) {selector : Selector} (legible : Legible selector)
    (kept : selector.isSubmetric = true → selector ∈ recorder.submetrics)
    {history : List (Delivery α)}
    (plain : ∀ delivery ∈ history, ∀ sample ∈ delivery.sample?, Plain sample.metric) :
    (recorder.follow tags history).sinks.get? selector.show =
      ((recorder.taken tags history).filter fun sample => selector.covers tags sample).foldl grown
        (recorder.sinks.get? selector.show) := by
  induction history generalizing recorder with
  | nil => rfl
  | cons delivery rest ih =>
    have first := plain delivery List.mem_cons_self
    have next := ih (aligned_receive tags aligned first)
      (by rw [submetrics_receive aligned]; exact kept)
      fun other member => plain other (List.mem_cons_of_mem _ member)
    show ((recorder.receive tags delivery).follow tags rest).sinks.get? selector.show = _
    rw [next, kept_receive aligned legible kept first, taken_cons, List.filter_append,
      List.foldl_append]

/-! ### The beginning -/

theorem get?_new (selectors : List Selector) (key : String) :
    (Recorder.new selectors : Recorder α).sinks.get? key = (BuiltIn.all.lookup key).map .empty := by
  show (Table.ofList (BuiltIn.all.map fun metric => (metric.1, Sink.empty metric.2))).get? key = _
  have apart : ((BuiltIn.all.map fun metric => (metric.1, (Sink.empty metric.2 : Sink α))).map
      Prod.fst).Nodup := by
    show (BuiltIn.all.map Prod.fst).Nodup
    decide
  rw [Table.get?_ofList apart]
  exact Table.lookup_map (fun _ kind => Sink.empty kind) key BuiltIn.all

/-- The metrics of every run are plain. -/
theorem plain_of_lookup {key : String} {kind : MetricKind}
    (found : BuiltIn.all.lookup key = some kind) : Plain key := by
  have plain : ∀ metric ∈ BuiltIn.all, Plain metric.1 := by decide
  exact plain _ (Table.mem_of_lookup found)

theorem get?_new_tagged (selectors : List Selector) {selector : Selector}
    (tagged : selector.isSubmetric = true) :
    (Recorder.new selectors : Recorder α).sinks.get? selector.show = none := by
  rw [get?_new, Option.map_eq_none_iff]
  cases found : BuiltIn.all.lookup selector.show with
  | none => rfl
  | some kind => exact absurd (plain_of_lookup found) (not_plain_show tagged)

theorem aligned_new {selectors : List Selector}
    (legible : ∀ selector ∈ selectors, Legible selector) :
    (Recorder.new selectors : Recorder α).Aligned where
  legible selector member := legible selector (mem_submetricsOf.mp member).1
  tagged selector member := (mem_submetricsOf.mp member).2
  apart := nodup_submetricsOf selectors
  kinds selector member sink found := by
    rw [get?_new_tagged selectors (mem_submetricsOf.mp member).2] at found
    contradiction

end Recorder

end LoadTest
