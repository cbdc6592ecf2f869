/-
**The recorder of a run.**

Every sample goes to the metric that it names, and to every submetric that a threshold asks for and
that the sample belongs to. The kind of a metric is the kind of its first sample; a sample of
another kind is refused, and so is a number that is not finite. Once the recorder is sealed, samples
are counted and thrown away.

* `Recorder.record`: one sample, with the fault that it met;
* `Recorder.snapshot`: what all metrics come to;
* `Recorder.aggregate`: what one metric comes to.
-/

import LoadTest.Recorder.Sink

namespace LoadTest

/-- Why a sample is refused. -/
inductive RecordFault where
  | kindMismatch (metric : String) (registered emitted : MetricKind)
  | nonFinite (metric : String)
deriving DecidableEq

/-- The wording of the fault. -/
def RecordFault.message : RecordFault → String
  | .kindMismatch metric registered emitted =>
    "Metric " ++ metric ++ " is a " ++ registered.name ++ " but was emitted as a " ++ emitted.name
  | .nonFinite metric => "Metric " ++ metric ++ " received a non-finite value"

/-- What a run has come to at some time. -/
structure Snapshot (α : Type) where
  /-- By the name of the metric, or the text of the selector of a submetric. -/
  aggregates : Table (Aggregate α)
  checks : Table CheckTally

/-- The metric or submetric that a selector names. -/
def Snapshot.get? {α : Type} (snapshot : Snapshot α) (selector : Selector) :
    Option (Aggregate α) :=
  snapshot.aggregates.get? selector.show

/-- All that was recorded in a run. -/
structure Recorder (α : Type) where
  sinks : Table (Sink α)
  checks : Table CheckTally
  /-- The submetrics, in their order and without repetition. -/
  submetrics : List Selector
  /-- When the recorder was sealed. -/
  sealedAt : Option Duration
  /-- Samples that came after that. -/
  dropped : Nat

namespace Selector

/-- The order of lists of tags, the first difference deciding. -/
def tagsLE : List (String × String) → List (String × String) → Bool
  | [], _ => true
  | _ :: _, [] => false
  | tag :: rest, other :: others => if tag = other then tagsLE rest others else tagLE tag other

/-- The order of selectors: by name, then by tags. -/
def sortLE (first second : Selector) : Bool :=
  if first.name = second.name then tagsLE first.tags second.tags else first.name ≤ second.name

/-- The submetrics among some selectors, in their order and without repetition. -/
def submetricsOf (selectors : List Selector) : List Selector :=
  ((selectors.filter isSubmetric).mergeSort sortLE).eraseReps

end Selector

namespace Recorder

variable {α : Type} [Scalar α]

/-- The recorder of a run that begins, with the submetrics among some selectors. -/
def new (selectors : List Selector) : Recorder α where
  sinks := Table.ofList (BuiltIn.all.map fun (name, kind) => (name, Sink.empty kind))
  checks := .empty
  submetrics := Selector.submetricsOf selectors
  sealedAt := none
  dropped := 0

/-- Whether samples are still recorded. -/
def isSealed (recorder : Recorder α) : Bool := recorder.sealedAt.isSome

/-- No sample is recorded from now on. -/
def close (recorder : Recorder α) (now : Duration) : Recorder α :=
  { recorder with sealedAt := some (recorder.sealedAt.getD now) }

/-- How long the metrics have been watched. -/
def elapsed (recorder : Recorder α) (now : Duration) : Duration := recorder.sealedAt.getD now

/-- A value for the metric under one key; the first value decides about its kind. -/
def push (recorder : Recorder α) (key : String) (kind : MetricKind) (value : Measured α) :
    Except RecordFault (Recorder α) :=
  let sink := (recorder.sinks.get? key).getD (.empty kind)
  if sink.kind = kind then .ok { recorder with sinks := recorder.sinks.insert key (sink.push value) }
  else .error (.kindMismatch key sink.kind kind)

/-- A value for the metrics under some keys, up to the first that refuses it. -/
def pushAll (recorder : Recorder α) (kind : MetricKind) (value : Measured α) :
    List String → Recorder α × Option RecordFault
  | [] => (recorder, none)
  | key :: rest =>
    match recorder.push key kind value with
    | .ok recorder => recorder.pushAll kind value rest
    | .error fault => (recorder, some fault)

/-- The keys under which a sample is recorded: its metric and the submetrics that it belongs to. -/
def keysOf (recorder : Recorder α) (sample : Sample α) : List String :=
  sample.metric ::
    (recorder.submetrics.filter fun selector =>
      selector.matches sample.metric sample.tags).map Selector.show

/-- The outcome of a check is counted under its name. -/
def tally (recorder : Recorder α) (sample : Sample α) : Recorder α :=
  match if sample.metric = BuiltIn.checks then sample.tags.get? "check" else none with
  | none => recorder
  | some name =>
    let tally := (recorder.checks.get? name).getD .zero
    { recorder with checks := recorder.checks.insert name (tally.add sample.value.holds) }

/-- **One more sample**, and the fault that it met. -/
def record (recorder : Recorder α) (sample : Sample α) : Recorder α × Option RecordFault :=
  if recorder.isSealed then ({ recorder with dropped := recorder.dropped + 1 }, none)
  else if sample.value.isUnrecordable then (recorder, some (.nonFinite sample.metric))
  else
    match recorder.pushAll sample.kind sample.value (recorder.keysOf sample) with
    | (recorder, some fault) => (recorder, some fault)
    | (recorder, none) => (recorder.tally sample, none)

/-- Whether a sample would be recorded. -/
def accepts (recorder : Recorder α) (sample : Sample α) : Bool :=
  !recorder.isSealed && (recorder.record sample).2.isNone

/-- More samples, whatever becomes of each. -/
def recordAll (recorder : Recorder α) (samples : List (Sample α)) : Recorder α :=
  samples.foldl (fun recorder sample => (recorder.record sample).1) recorder

/-- **What all metrics come to.** -/
def snapshot (recorder : Recorder α) (now : Duration) : Snapshot α where
  aggregates := recorder.sinks.map fun _ sink => sink.aggregate (recorder.elapsed now)
  checks := recorder.checks

/-- What the metric or submetric that a selector names comes to. -/
def aggregate (recorder : Recorder α) (selector : Selector) (now : Duration) :
    Option (Aggregate α) :=
  (recorder.sinks.get? selector.show).map fun sink => sink.aggregate (recorder.elapsed now)

/-- The running total of a counter; zero for other metrics. -/
def total (recorder : Recorder α) (metric : String) : α :=
  ((recorder.sinks.get? metric).map Sink.total).getD (Scalar.ofNat 0)

end Recorder

end LoadTest
