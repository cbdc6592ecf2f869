/-
**Metric summaries.**

The statistics of a metric that are reported when a run is over. Statistics that a metric does not
have are left out of the text, and so are the two counts of a rate where they are zero.

* `Aggregate.summary`: the summary of an aggregate;
* `MetricSummary.json` and `MetricSummary.reader`: writing and reading.
-/

import LoadTest.Metric.Aggregate
import LoadTest.Json.Reader

namespace LoadTest

/-- The statistics of a metric. -/
structure MetricSummary where
  kind : MetricKind
  count : Float
  sum : Float
  min : Option Float
  max : Option Float
  avg : Option Float
  med : Option Float
  p90 : Option Float
  p95 : Option Float
  p99 : Option Float
  rate : Option Float
  trues : Nat
  falses : Nat
deriving DecidableEq

/-- **The statistics that an aggregate has.** -/
def Aggregate.summary (aggregate : Aggregate Float) : MetricSummary where
  kind := aggregate.kind
  count := match aggregate with
    | .counter .. => aggregate.sum
    | _ => Float.ofNat aggregate.samples
  sum := aggregate.sum
  min := aggregate.min
  max := aggregate.max
  avg := aggregate.avg
  med := aggregate.percentile 50
  p90 := aggregate.percentile 90
  p95 := aggregate.percentile 95
  p99 := aggregate.percentile 99
  rate := aggregate.perUnit
  trues := aggregate.trues
  falses := aggregate.falses

/-- Reads the name of a kind. -/
def MetricKind.reader : Json.Reader MetricKind :=
  Json.Reader.choice ([counter, rate, trend].map fun kind => (kind.name, kind))

namespace MetricSummary

/-- The names of the statistics that a metric may lack. -/
def optional (summary : MetricSummary) : List (String × Option Float) :=
  [("min", summary.min), ("max", summary.max), ("avg", summary.avg), ("med", summary.med),
    ("p(90)", summary.p90), ("p(95)", summary.p95), ("p(99)", summary.p99), ("rate", summary.rate)]

/-- The summary as JSON. -/
def json (summary : MetricSummary) : Json :=
  .object <|
    [("type", .string summary.kind.name), ("count", .ofFloat summary.count),
      ("sum", .ofFloat summary.sum)] ++
    summary.optional.filterMap (fun (name, value) => value.map fun x => (name, .ofFloat x)) ++
    [("trues", summary.trues), ("falses", summary.falses)].filterMap fun (name, count) =>
      if count = 0 then none else some (name, .ofNat count)

/-- The fields of a summary in their order. -/
def fields : List String :=
  ["type", "count", "sum", "min", "max", "avg", "med", "p(90)", "p(95)", "p(99)", "rate", "trues",
    "falses"]

/-- **Reads a summary.** The counts of a rate are not optional. -/
def reader : Json.Reader MetricSummary :=
  .record fields .skipped fun record => do
    some {
      kind := ← record.need "type" MetricKind.reader
      count := ← record.need "count" .float
      sum := ← record.need "sum" .float
      min := ← record.maybeNamed "min" .float
      max := ← record.maybeNamed "max" .float
      avg := ← record.maybeNamed "avg" .float
      med := ← record.maybeNamed "med" .float
      p90 := ← record.maybeNamed "p(90)" .float
      p95 := ← record.maybeNamed "p(95)" .float
      p99 := ← record.maybeNamed "p(99)" .float
      rate := ← record.maybeNamed "rate" .float
      trues := ← record.need "trues" (.nat Decimal.maxWord)
      falses := ← record.need "falses" (.nat Decimal.maxWord) }

end MetricSummary

end LoadTest
