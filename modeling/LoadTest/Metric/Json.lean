/-
**Samples in JSON.**

A sample is written with all its fields; its time is a whole number of seconds and the nanoseconds
beyond them, of which a second's worth counts as one when it is read.

* `Sample.json` and `Sample.reader`: writing and reading.
-/

import LoadTest.Metric.Sample
import LoadTest.Metric.Summary

namespace LoadTest

open Json (Reader)
open Decimal

/-- Seconds and nanoseconds of a span. -/
def Duration.json (d : Duration) : Json :=
  .object [("secs", .ofNat d.seconds), ("nanos", .ofNat d.subsecond)]

/-- Reads seconds and nanoseconds of a span. -/
def Duration.reader : Reader Duration :=
  .record ["secs", "nanos"] .refused fun record => do
    Duration.ofParts? (← record.need "secs" (.nat maxWord)) (← record.need "nanos" (.nat 4294967295))

/-- The value as JSON. -/
def Measured.json : Measured Float → Json
  | .number value => .ofFloat value
  | .flag value => .bool value

/-- Reads a number or a truth value. -/
def Measured.reader : Reader (Measured Float) :=
  .firstOf [fun room value => (Reader.float room value).map .number,
    fun room value => (Reader.bool room value).map .flag]

namespace Sample

/-- The sample as JSON. -/
def json (sample : Sample Float) : Json :=
  .object [("metric", .string sample.metric), ("kind", .string sample.kind.name),
    ("value", sample.value.json), ("offset", sample.offset.json),
    ("tags", .ofTable .string sample.tags)]

/-- **Reads a sample.** -/
def reader : Reader (Sample Float) :=
  .record ["metric", "kind", "value", "offset", "tags"] .skipped fun record => do
    some ⟨← record.need "metric" .string, ← record.need "kind" MetricKind.reader,
      ← record.need "value" Measured.reader, ← record.need "offset" Duration.reader,
      ← record.need "tags" (.table .string)⟩

end Sample

end LoadTest
