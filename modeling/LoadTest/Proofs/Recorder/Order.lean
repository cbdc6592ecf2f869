/-
**The order of samples does not matter.**

A metric and its kind come into being with the first sample, so what is kept along the way differs
from order to order. What it comes to at the end does not: under each key there are the same values
in another order, which a sort, the two counts of a rate and the number of events do not see. Only
the total of a counter is rounded at every step; read with exact addition it is the same as well.

* `Aggregate.withoutTotal`, `Snapshot.withoutTotals`: all but the totals of counters;
* `Sample.exact`: a sample with the number that its float stands for;
* `Recorder.snapshot_of_perm`: what samples come to in any order.
-/

import LoadTest.Proofs.Metric.Recompute
import LoadTest.Proofs.Recorder.Taken

set_option linter.unusedSectionVars false

namespace LoadTest

/-! ### All but the totals of counters -/

/-- An aggregate, the total of a counter left out. -/
def Aggregate.withoutTotal {α : Type} [Scalar α] : Aggregate α → Aggregate α
  | .counter events _ elapsed => .counter events (Scalar.ofNat 0) elapsed
  | .rate trues falses values => .rate trues falses values
  | .trend values => .trend values

/-- What a run has come to, the totals of counters left out. -/
def Snapshot.withoutTotals {α : Type} [Scalar α] (snapshot : Snapshot α) : Snapshot α :=
  { snapshot with aggregates := snapshot.aggregates.map fun _ aggregate => aggregate.withoutTotal }

/-! ### The exact reading -/

/-- The number that a float stands for. -/
def exactValue (x : Float) : ℚ := Rounding.valueOf x.toModel.unpack

/-- A value, its number read exactly. -/
def Measured.exact : Measured Float → Measured ℚ
  | .number value => .number (exactValue value)
  | .flag value => .flag value

/-- A sample, its number read exactly. -/
def Sample.exact (sample : Sample Float) : Sample ℚ :=
  ⟨sample.metric, sample.kind, sample.value.exact, sample.offset, sample.tags⟩

theorem Snapshot.ext_get? {α : Type} {first second : Snapshot α}
    (same : ∀ key, first.aggregates.get? key = second.aggregates.get? key)
    (checks : first.checks = second.checks) : first = second := by
  have aggregates := Table.ext_get? same
  cases first
  cases second
  exact congrArg₂ Snapshot.mk aggregates checks

/-! ### Values in another order -/

section Values

variable {α β : Type} [Scalar α] {values others : List (Measured α)}

/-- What shows of some values does not depend on their order, if it does not for totals. -/
theorem Sink.view_perm (view : Aggregate α → β) (same : values.Perm others)
    (sorted : ∀ {values others : List α}, values.Perm others →
      Scalar.sort values = Scalar.sort others) {elapsed : Duration}
    (totals : ∀ events, view (.counter events (Measured.total values) elapsed) =
      view (.counter events (Measured.total others) elapsed))
    (kind : MetricKind) : view ((Sink.ofValues kind values).aggregate elapsed) =
      view ((Sink.ofValues kind others).aggregate elapsed) := by
  cases kind with
  | counter =>
    rw [aggregate_counter, aggregate_counter, same.length_eq]
    exact totals _
  | rate =>
    rw [aggregate_rate, aggregate_rate, same.countP_eq, same.countP_eq]
  | trend =>
    unfold ofValues empty
    dsimp only
    rw [foldl_push_trend, foldl_push_trend]
    have numbers : ((values.map Measured.toNumber).reverse ++ []).Perm
        ((others.map Measured.toNumber).reverse ++ []) := by
      rw [List.append_nil, List.append_nil]
      exact (List.reverse_perm _).trans ((same.map _).trans (List.reverse_perm _).symm)
    exact congrArg (fun ordered => view (.trend ordered)) (sorted numbers)

end Values

namespace Recorder

/-! ### Samples in another order -/

section Samples

variable {α β : Type} [Scalar α] {selectors : List Selector} {kinds : String → MetricKind}
  {samples others : List (Sample α)}

/-- **What is kept under a key** of samples that are all taken: what their values come to. -/
theorem kept_new (fits : (Recorder.new selectors : Recorder α).Fits kinds samples)
    (key : String) : ((Recorder.new selectors).recordAll samples).sinks.get? key =
      (if (Recorder.new selectors : Recorder α).under key samples = [] then BuiltIn.all.lookup key
        else some (kinds key)).map fun kind =>
          Sink.ofValues kind (((Recorder.new selectors).under key samples).map Sample.value) := by
  rw [kept_recordAll rfl fits, get?_new]
  cases same : (Recorder.new selectors : Recorder α).under key samples with
  | nil => rfl
  | cons first rest =>
    obtain ⟨member, inside⟩ := mem_under (same ▸ List.mem_cons_self)
    rw [if_neg (List.cons_ne_nil _ _), Option.map_some]
    cases known : BuiltIn.all.lookup key with
    | some kind =>
      rw [← fits.kept key kind ((kindOf?_new selectors key).trans known)]
      exact foldl_grown (first :: rest) (.empty kind)
    | none =>
      rw [← fits.agree first member key inside]
      exact foldl_grown rest _

theorem under_perm (same : samples.Perm others) (recorder : Recorder α) (key : String) :
    (recorder.under key samples).Perm (recorder.under key others) :=
  same.flatMap_right _

/-- What shows of a metric does not depend on the order of samples, if it does not for totals. -/
theorem view_recordAll_perm (fits : (Recorder.new selectors : Recorder α).Fits kinds samples)
    (same : samples.Perm others) (view : Aggregate α → β) {elapsed : Duration}
    (sorted : ∀ {values others : List α}, values.Perm others →
      Scalar.sort values = Scalar.sort others)
    (totals : ∀ {values others : List (Measured α)}, values.Perm others → ∀ events,
      view (.counter events (Measured.total values) elapsed) =
        view (.counter events (Measured.total others) elapsed))
    (key : String) :
    (((Recorder.new selectors).recordAll samples).sinks.get? key).map
        (fun sink => view (sink.aggregate elapsed)) =
      (((Recorder.new selectors).recordAll others).sinks.get? key).map
        fun sink => view (sink.aggregate elapsed) := by
  have perm := under_perm same (Recorder.new selectors) key
  have none_iff : (Recorder.new selectors : Recorder α).under key samples = [] ↔
      (Recorder.new selectors : Recorder α).under key others = [] :=
    ⟨fun none => List.nil_perm.mp (none ▸ perm), fun none => List.perm_nil.mp (none ▸ perm)⟩
  have values := perm.map Sample.value
  rw [kept_new fits, kept_new (fits.perm same), if_congr none_iff rfl rfl,
    Option.map_map, Option.map_map]
  refine congrArg (fun show? => Option.map show? _) (funext fun kind => ?_)
  exact Sink.view_perm view values sorted (totals values) kind

/-! ### Checks in another order -/

theorem CheckTally.add_comm (tally : CheckTally) (first second : Bool) :
    (tally.add first).add second = (tally.add second).add first := by
  cases first <;> cases second <;> rfl

theorem tallied_comm (checks : Table CheckTally) (first second : Sample α) :
    tallied (tallied checks first) second = tallied (tallied checks second) first := by
  unfold tallied
  cases if first.metric = BuiltIn.checks then first.tags.get? "check" else none with
  | none => rfl
  | some one =>
    cases if second.metric = BuiltIn.checks then second.tags.get? "check" else none with
    | none => rfl
    | some other =>
      refine Table.ext_get? fun name => ?_
      simp only [Table.get?_insert]
      by_cases same : one = other
      · subst same
        rw [if_pos (rfl : one = one), if_pos (rfl : one = one), Option.getD_some, Option.getD_some,
          CheckTally.add_comm]
        by_cases here : name = one
        · rw [if_pos here, if_pos here]
        · simp only [if_neg here]
      · -- Tallies under different names do not touch each other.
        rw [if_neg same, if_neg (Ne.symm same)]
        by_cases here : name = one
        · rw [if_pos here, if_pos here, if_neg (here ▸ same)]
        · rw [if_neg here, if_neg here]

theorem checks_perm (fits : (Recorder.new selectors : Recorder α).Fits kinds samples)
    (same : samples.Perm others) :
    ((Recorder.new selectors : Recorder α).recordAll samples).checks =
      ((Recorder.new selectors).recordAll others).checks := by
  rw [tallied_recordAll rfl fits, tallied_recordAll rfl (fits.perm same)]
  exact same.foldl_eq' (fun first _ second _ checks => tallied_comm checks first second) _

theorem elapsed_recordAll (fits : (Recorder.new selectors : Recorder α).Fits kinds samples)
    (now : Duration) : ((Recorder.new selectors).recordAll samples).elapsed now = now := by
  unfold elapsed
  rw [sealedAt_recordAll rfl fits]
  rfl

/-- What samples come to at some time, recorded by a new recorder. -/
def comesTo (selectors : List Selector) (samples : List (Sample α)) (now : Duration) : Snapshot α :=
  ((Recorder.new selectors).recordAll samples).snapshot now

theorem get?_comesTo (fits : (Recorder.new selectors : Recorder α).Fits kinds samples)
    (now : Duration) (key : String) : (comesTo selectors samples now).aggregates.get? key =
      (((Recorder.new selectors).recordAll samples).sinks.get? key).map
        fun sink => sink.aggregate now := by
  unfold comesTo snapshot
  rw [Table.get?_map, elapsed_recordAll fits]

end Samples

section Exact

variable {selectors : List Selector} {kinds : String → MetricKind}
  {samples others : List (Sample Float)}

theorem fits_exact (fits : (Recorder.new selectors : Recorder Float).Fits kinds samples) :
    (Recorder.new selectors : Recorder ℚ).Fits kinds (samples.map Sample.exact) := by
  refine ⟨fun key known found => ?_, fun sample member => ?_, fun sample member => ?_⟩
  · rw [kindOf?_new] at found
    exact fits.kept key known ((kindOf?_new selectors key).trans found)
  · obtain ⟨rounded, -, rfl⟩ := List.mem_map.mp member
    unfold Sample.exact
    cases rounded.value with
    | number value => rfl
    | flag value => rfl
  · obtain ⟨rounded, inside, rfl⟩ := List.mem_map.mp member
    exact fits.agree rounded inside

theorem under_exact (selectors : List Selector) (key : String) (samples : List (Sample Float)) :
    (Recorder.new selectors : Recorder ℚ).under key (samples.map Sample.exact) =
      ((Recorder.new selectors : Recorder Float).under key samples).map Sample.exact := by
  unfold under
  rw [List.flatMap_map, List.map_flatMap]
  refine congrArg (fun copies => samples.flatMap copies) (funext fun sample => ?_)
  rw [List.map_replicate]
  rfl

/-- **The exact reading has the same counters with as many events**; only totals differ. -/
theorem counter_exact (fits : (Recorder.new selectors : Recorder Float).Fits kinds samples)
    {now elapsed : Duration} {key : String} {events : ℕ} {total : Float}
    (found : (comesTo selectors samples now).aggregates.get? key =
      some (.counter events total elapsed)) :
    ∃ exact, (comesTo selectors (samples.map Sample.exact) now).aggregates.get? key =
      some (.counter events exact elapsed) := by
  rw [get?_comesTo fits, kept_new fits, Option.map_map, Option.map_eq_some_iff] at found
  obtain ⟨kind, known, aggregate⟩ := found
  have isCounter := congrArg Aggregate.kind aggregate
  rw [Function.comp_apply, Sink.kind_aggregate, Sink.kind_ofValues] at isCounter
  obtain rfl : kind = .counter := isCounter
  obtain ⟨rfl, -, rfl⟩ :=
    Aggregate.counter.inj ((Sink.aggregate_counter _ now).symm.trans aggregate)
  rw [get?_comesTo (fits_exact fits), kept_new (fits_exact fits), under_exact,
    if_congr List.map_eq_nil_iff rfl rfl, known, Option.map_some, Option.map_some,
    Sink.aggregate_counter, List.length_map, List.length_map, List.length_map]
  exact ⟨_, rfl⟩

/-- **What samples come to does not depend on their order.** If a new recorder takes all samples in
one order, it takes them in every other one and ends with the same metrics, of the same kinds, with
the same values, counts and checks; with exact addition the totals of counters are the same too. -/
theorem snapshot_of_perm (selectors : List Selector) {samples others : List (Sample Float)}
    (same : samples.Perm others)
    (taken : (Recorder.new selectors : Recorder Float).takesAll samples = true) (now : Duration) :
    (Recorder.new selectors : Recorder Float).takesAll others = true ∧
      (comesTo selectors samples now).withoutTotals = (comesTo selectors others now).withoutTotals ∧
      (Recorder.new selectors : Recorder ℚ).takesAll (samples.map Sample.exact) = true ∧
      (∀ key events total elapsed,
        (comesTo selectors samples now).aggregates.get? key = some (.counter events total elapsed) →
        ∃ exact, (comesTo selectors (samples.map Sample.exact) now).aggregates.get? key =
          some (.counter events exact elapsed)) ∧
      comesTo selectors (samples.map Sample.exact) now =
        comesTo selectors (others.map Sample.exact) now := by
  obtain ⟨kinds, fits⟩ := (takesAll_iff rfl).mp taken
  have exact := fits_exact fits
  have permuted := same.map Sample.exact
  refine ⟨(takesAll_iff rfl).mpr ⟨kinds, fits.perm same⟩, ?_, (takesAll_iff rfl).mpr ⟨kinds, exact⟩,
    fun key events total elapsed found => counter_exact fits found, ?_⟩
  · refine Snapshot.ext_get? (fun key => ?_) (checks_perm fits same)
    show (Table.map _ _).get? key = (Table.map _ _).get? key
    rw [Table.get?_map, Table.get?_map, get?_comesTo fits, get?_comesTo (fits.perm same),
      Option.map_map, Option.map_map]
    exact view_recordAll_perm fits same Aggregate.withoutTotal Rounding.sort_congr
      (fun _ _ => rfl) key
  · refine Snapshot.ext_get? (fun key => ?_) (checks_perm exact permuted)
    rw [get?_comesTo exact, get?_comesTo (exact.perm permuted)]
    refine view_recordAll_perm exact permuted id Rounding.sort_congr_exact (fun values events => ?_)
      key
    refine congrArg (fun total => Aggregate.counter events total now) ?_
    exact (values.map Measured.toNumber).foldl_eq' (fun first _ second _ total => by
      show total + first + second = total + second + first
      exact add_right_comm total first second) _

/-- Two zeros of either sign, two steps of a counter and an outcome of a check, in both orders. -/
theorem snapshot_of_reverse :
    let selectors : List Selector := [⟨"size", [("zone", "a")]⟩]
    let samples : List (Sample Float) :=
      [(Sample.trend "size" 0).tag "zone" "a", .trend "size" (-0.0), .counter "steps" 0.5,
        .counter "steps" 0.25, (Sample.rate "checks" true).tag "check" "quick"]
    (Recorder.new selectors : Recorder Float).takesAll samples = true ∧
      (Recorder.new selectors : Recorder Float).takesAll samples.reverse = true ∧
      (comesTo selectors samples .zero).withoutTotals =
        (comesTo selectors samples.reverse .zero).withoutTotals ∧
      comesTo selectors (samples.map Sample.exact) .zero =
        comesTo selectors (samples.reverse.map Sample.exact) .zero ∧
      ((Recorder.new selectors).recordAll samples).sinks.get? "size" = some (.trend [-0.0, 0]) ∧
      ((Recorder.new selectors).recordAll samples.reverse).sinks.get? "size" =
        some (.trend [0, (-0.0 : Float)]) := by
  intro selectors samples
  have taken : (Recorder.new selectors : Recorder Float).takesAll samples = true := by
    decide +kernel
  obtain ⟨permuted, shown, -, -, exact⟩ :=
    snapshot_of_perm selectors (List.reverse_perm samples).symm taken .zero
  exact ⟨taken, permuted, shown, exact, by decide +kernel, by decide +kernel⟩

end Exact

end Recorder

end LoadTest
