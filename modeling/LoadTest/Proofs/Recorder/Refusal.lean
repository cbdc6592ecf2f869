/-
**What a refused sample leaves behind.**

A sample that is no finite number, and one whose metric has another kind, leave the recorder as it
was. The submetrics come after the metric, so one that refuses a sample leaves the sample where it
was already added. As long as no metric has a brace in its name this does not occur: the text of a
submetric begins with its metric, and both then have one kind. A metric whose name is itself the
text of a submetric gets that submetric a kind of its own.

* `Recorder.Rooted`: whatever is kept under a text has the kind of the metric that it begins with;
* `Recorder.unchanged_of_rooted`: such a recorder is not changed by what it refuses;
* `Recorder.left_by_refused`: what any recorder keeps of a refused sample;
* `Recorder.unchanged_of_refused_fails`: a sample that is refused and counted.
-/

import LoadTest.Proofs.Recorder.Kinds
import LoadTest.Proofs.Recorder.Standard

set_option linter.unusedSectionVars false

namespace LoadTest

namespace Recorder

open Selector

variable {α : Type} [Scalar α] {recorder : Recorder α} {sample : Sample α}

/-! ### Kinds go by the beginning of a text -/

/-- **Whatever is kept under a text has the kind of the metric that the text begins with.** -/
def Rooted (recorder : Recorder α) : Prop :=
  ∀ key kind, recorder.kindOf? key = some kind → recorder.kindOf? (stem key) = some kind

theorem rooted_new (selectors : List Selector) : (Recorder.new selectors : Recorder α).Rooted := by
  intro key kind found
  have plain : Plain key := plain_of_lookup ((kindOf?_new selectors key).symm.trans found)
  rw [stem_plain plain, found]

/-- Keys of one metric that take a value keep the kinds by the beginning. -/
theorem rooted_addingAll (rooted : recorder.Rooted) {kind : MetricKind} {value : Measured α}
    {keys : List String} (admitted : ∀ key ∈ keys, recorder.Admits kind key)
    (closed : ∀ key ∈ keys, stem key ∈ keys) : (recorder.addingAll kind value keys).Rooted := by
  intro key known found
  rw [kindOf?_addingAll admitted] at found ⊢
  by_cases inside : key ∈ keys
  · rw [if_pos inside] at found
    rw [if_pos (closed key inside), found]
  · rw [if_neg inside] at found
    have root := rooted key known found
    by_cases metric : stem key ∈ keys
    · rw [if_pos metric, admits_iff.mp (admitted _ metric) known root]
    · rw [if_neg metric, root]

/-- **A recorder whose kinds go by the beginning is not changed by a sample that it refuses**, and
its kinds stay so: the metric comes first, and what it takes its submetrics take. -/
theorem unchanged_of_rooted (rooted : recorder.Rooted) (plain : Plain sample.metric) :
    (recorder.record sample).1.Rooted ∧
      ((recorder.record sample).2 ≠ none → (recorder.record sample).1 = recorder) := by
  generalize result : recorder.record sample = after
  cases result ▸ record_outcome recorder sample with
  | dropped closed => exact ⟨rooted, fun faulty => absurd rfl faulty⟩
  | nonFinite unsealed unrecordable => exact ⟨rooted, fun _ => rfl⟩
  | taken unsealed recordable admitted =>
    refine ⟨fun key kind found => ?_, fun faulty => absurd rfl faulty⟩
    rw [kindOf?_tally] at found ⊢
    refine rooted_addingAll rooted admitted (fun key member => ?_) key kind found
    rw [stem_of_mem_keysOf plain member]
    exact List.mem_cons_self
  | @mismatch unsealed recordable served waiting key known split admitted found other =>
    have none_served : served = [] := by
      have member : key ∈ recorder.keysOf sample := by
        rw [split]
        exact List.mem_append_right _ List.mem_cons_self
      have root := rooted key known found
      rw [stem_of_mem_keysOf plain member] at root
      -- Had the metric been served, it would have had the kind of the sample.
      cases served with
      | nil => rfl
      | cons first rest =>
        have metric : sample.metric = first := (List.cons.inj split).1
        exact absurd (admits_iff.mp (admitted _ (metric ▸ List.mem_cons_self)) known root) other
    subst none_served
    exact ⟨rooted, fun _ => rfl⟩

theorem rooted_recordAll {samples : List (Sample α)} (rooted : recorder.Rooted)
    (plain : ∀ sample ∈ samples, Plain sample.metric) : (recorder.recordAll samples).Rooted := by
  induction samples generalizing recorder with
  | nil => exact rooted
  | cons first rest ih =>
    exact ih (unchanged_of_rooted rooted (plain first List.mem_cons_self)).1
      fun other member => plain other (List.mem_cons_of_mem _ member)

/-! ### Any recorder -/

section Any

variable {selectors : List Selector} {history : List (Sample α)}

/-- Only where some name of a metric holds a brace does a refused sample change anything. -/
theorem exists_braced
    (faulty : (((Recorder.new selectors).recordAll history).record sample).2 ≠ none)
    (changed : (((Recorder.new selectors).recordAll history).record sample).1 ≠
      (Recorder.new selectors).recordAll history) :
    ∃ name ∈ sample.metric :: history.map Sample.metric, ¬ Plain name := by
  by_contra nowhere
  have plain : ∀ name ∈ sample.metric :: history.map Sample.metric, Plain name :=
    fun name member => by_contra fun brace => nowhere ⟨name, member, brace⟩
  have rooted : ((Recorder.new selectors : Recorder α).recordAll history).Rooted :=
    rooted_recordAll (rooted_new selectors) fun other member =>
      plain _ (List.mem_cons_of_mem _ (List.mem_map_of_mem member))
  exact changed ((unchanged_of_rooted rooted (plain _ List.mem_cons_self)).2 faulty)

/-- A key that comes after the metric is that of a submetric to which the sample belongs. -/
theorem exists_selector_of_split {metric key : String} {rest waiting : List String}
    (split : recorder.keysOf sample = metric :: rest ++ key :: waiting) :
    metric = sample.metric ∧ ∃ selector ∈ recorder.submetrics,
      selector.matches sample.metric sample.tags = true ∧ selector.show = key := by
  obtain ⟨first, tail⟩ := List.cons.inj split
  have submetric : key ∈ (recorder.submetrics.filter fun selector =>
      selector.matches sample.metric sample.tags).map Selector.show := by
    rw [tail]
    exact List.mem_append_right _ List.mem_cons_self
  obtain ⟨selector, inside, same⟩ := List.mem_map.mp submetric
  obtain ⟨kept, belongs⟩ := List.mem_filter.mp inside
  exact ⟨first.symm, selector, kept, belongs, same⟩

end Any

/-- **What is left of a refused sample.** The checks and the number of samples thrown away are as
they were. Either so is everything else, or the metric has taken the sample before a submetric of
another kind refused it; then some name of a metric holds a brace. -/
theorem left_by_refused (selectors : List Selector) (history : List (Sample α)) (sample : Sample α)
    (fault : RecordFault)
    (refused : (((Recorder.new selectors).recordAll history).record sample).2 = some fault) :
    let before : Recorder α := (Recorder.new selectors).recordAll history
    let after : Recorder α := (before.record sample).1
    after.checks = before.checks ∧ after.dropped = before.dropped ∧
      (after = before ∨
        (∃ name ∈ sample.metric :: history.map Sample.metric, ¬ Plain name) ∧
        ∃ selector ∈ before.submetrics, ∃ known served,
          selector.matches sample.metric sample.tags = true ∧
          before.kindOf? selector.show = some known ∧ known ≠ sample.kind ∧
          fault = .kindMismatch selector.show known sample.kind ∧
          after = before.addingAll sample.kind sample.value (sample.metric :: served) ∧
          ∀ key ∈ sample.metric :: served, before.Admits sample.kind key) := by
  intro before after
  have braced := exists_braced (by rw [refused]; exact Option.some_ne_none fault)
  generalize result : before.record sample = outcome
  rw [show after = outcome.1 from congrArg Prod.fst result]
  rw [show ((Recorder.new selectors).recordAll history).record sample = outcome from result]
    at braced refused
  cases result ▸ record_outcome before sample with
  | dropped closed => contradiction
  | nonFinite unsealed unrecordable => exact ⟨rfl, rfl, .inl rfl⟩
  | taken unsealed recordable admitted => contradiction
  | @mismatch unsealed recordable served waiting key known split admitted found other =>
    obtain ⟨-, -, dropped, checks⟩ := addingAll_frame before sample.kind sample.value served
    refine ⟨checks, dropped, ?_⟩
    cases served with
    | nil => exact .inl rfl
    | cons metric rest =>
      obtain ⟨rfl, selector, kept, belongs, rfl⟩ := exists_selector_of_split split
      by_cases same : before.addingAll sample.kind sample.value (sample.metric :: rest) = before
      · exact .inl same
      · exact .inr ⟨braced same, selector, kept, known, rest, belongs, found, other,
          (Option.some.inj refused).symm, rfl, admitted⟩

/-- A metric with the name of a submetric gets the submetric a kind of its own, and the metric of
that submetric then keeps a sample that is refused. -/
theorem left_by_refused_submetric :
    let before : Recorder Float :=
      (Recorder.new [⟨"a", [("k", "v")]⟩]).recordAll [.counter "a\x7bk:v\x7d" 1]
    let sample : Sample Float := (Sample.trend "a" 1).tag "k" "v"
    let after := (before.record sample).1
    (before.record sample).2 = some (.kindMismatch "a\x7bk:v\x7d" .counter .trend) ∧
      after.checks = before.checks ∧ after.dropped = before.dropped ∧
      (∃ name ∈ ["a", "a\x7bk:v\x7d"], ¬ Plain name) ∧
      before.sinks.get? "a" = none ∧ after.sinks.get? "a" = some (.trend [1]) := by
  intro before sample after
  have refused :
      (before.record sample).2 = some (.kindMismatch "a\x7bk:v\x7d" .counter .trend) := by
    decide +kernel
  have absent : before.sinks.get? "a" = none := by decide +kernel
  have kept : after.sinks.get? "a" = some (.trend [1]) := by decide +kernel
  obtain ⟨checks, dropped, unchanged | ⟨braced, -⟩⟩ := left_by_refused _ _ sample _ refused
  · have same : after.sinks.get? "a" = before.sinks.get? "a" :=
      congrArg (fun recorder : Recorder Float => recorder.sinks.get? "a") unchanged
    rw [kept, absent] at same
    contradiction
  · exact ⟨refused, checks, dropped, braced, absent, kept⟩

/-- **A refused sample does not always leave what the metrics come to as it was.** -/
theorem unchanged_of_refused_fails :
    ¬ ∀ (selectors : List Selector) (history : List (Sample Float)) (sample : Sample Float)
      (fault : RecordFault) (now : Duration),
      (((Recorder.new selectors).recordAll history).record sample).2 = some fault →
      (((Recorder.new selectors).recordAll history).record sample).1.snapshot now =
        ((Recorder.new selectors).recordAll history).snapshot now := by
  intro claimed
  have same := claimed [⟨"a", [("k", "v")]⟩] [.counter "a\x7bk:v\x7d" 1]
    ((Sample.trend "a" 1).tag "k" "v") (.kindMismatch "a\x7bk:v\x7d" .counter .trend) .zero
    (by decide +kernel)
  have keys := congrArg (fun snapshot => snapshot.aggregates.contains "a") same
  revert keys
  decide +kernel

end Recorder

end LoadTest
