/-
**Spans of time.**

A duration is a whole number of nanoseconds whose seconds fit 64 bits. Sums stop at the longest
duration; a number of seconds is rounded to the nearest nanosecond, a half going to the even one.

* `Duration.add`: the sum, at most `Duration.longest`;
* `Duration.ofSeconds`: the duration of a number of seconds, or why there is none;
* `Duration.show`: the duration in its largest unit.
-/

import LoadTest.Decimal.Layout

namespace LoadTest

open Decimal

/-- Nanoseconds in a second. -/
def nanosPerSecond : Nat := 1000000000

/-- A span of time in nanoseconds. -/
structure Duration where
  nanos : Nat
  /-- The seconds fit 64 bits. -/
  bounded : nanos < (maxWord + 1) * nanosPerSecond
deriving DecidableEq

/-- Why a number of seconds is no duration. -/
inductive SecondsFault where
  | negative
  | tooBigOrNaN
deriving DecidableEq

/-- The wording of the fault. -/
def SecondsFault.message : SecondsFault → String
  | .negative => "cannot convert float seconds to Duration: value is negative"
  | .tooBigOrNaN => "cannot convert float seconds to Duration: value is either too big or NaN"

namespace Duration

@[ext] theorem ext {d e : Duration} (same : d.nanos = e.nanos) : d = e := by
  cases d; cases e; simp_all

/-- The duration of a number of nanoseconds, if it is in range. -/
def ofNanos? (nanos : Nat) : Option Duration :=
  if h : nanos < (maxWord + 1) * nanosPerSecond then some ⟨nanos, h⟩ else none

/-- The empty span. -/
def zero : Duration := ⟨0, by decide⟩

/-- The longest span. -/
def longest : Duration := ⟨(maxWord + 1) * nanosPerSecond - 1, by decide⟩

/-- The duration of a number of nanoseconds; beyond the range it is the longest one. -/
def ofNanos (nanos : Nat) : Duration := (ofNanos? nanos).getD longest

/-- Whole milliseconds. -/
def ofMillis (millis : Nat) : Duration := ofNanos (millis * 1000000)

/-- Whole seconds. -/
def ofWholeSeconds (seconds : Nat) : Duration := ofNanos (seconds * nanosPerSecond)

instance : Inhabited Duration := ⟨zero⟩
instance : LE Duration := ⟨fun d e => d.nanos ≤ e.nanos⟩
instance : LT Duration := ⟨fun d e => d.nanos < e.nanos⟩
instance (d e : Duration) : Decidable (d ≤ e) := inferInstanceAs (Decidable (d.nanos ≤ e.nanos))
instance (d e : Duration) : Decidable (d < e) := inferInstanceAs (Decidable (d.nanos < e.nanos))

/-- Whether the span is empty. -/
def isZero (d : Duration) : Bool := d.nanos = 0

/-- The whole seconds of a span. -/
def seconds (d : Duration) : Nat := d.nanos / nanosPerSecond

/-- The nanoseconds beyond the whole seconds. -/
def subsecond (d : Duration) : Nat := d.nanos % nanosPerSecond

/-- The whole milliseconds of a span. -/
def millis (d : Duration) : Nat := d.nanos / 1000000

/-- The sum, if it is in range. -/
def add? (d e : Duration) : Option Duration := ofNanos? (d.nanos + e.nanos)

/-- The sum; beyond the range it is the longest span. -/
def add (d e : Duration) : Duration := ofNanos (d.nanos + e.nanos)

instance : Add Duration := ⟨add⟩

/-- The sum of a list of spans; beyond the range it is the longest span. -/
def sum (spans : List Duration) : Duration := spans.foldl add zero

/-- The span of given seconds and nanoseconds, a second's worth of nanoseconds counting as one. -/
def ofParts? (seconds nanos : Nat) : Option Duration := ofNanos? (seconds * nanosPerSecond + nanos)

/-- **The duration of a number of seconds**, to the nearest nanosecond. -/
def ofSeconds (x : Float) : Except SecondsFault Duration :=
  if x < 0 then .error .negative
  else if x.isNaN || x.isInf then .error .tooBigOrNaN
  else
    let (num, den) := (Binary.ofBits x.toBits).ratio
    match ofNanos? (roundDiv (num * nanosPerSecond) den .toEven) with
    | some d => .ok d
    | none => .error .tooBigOrNaN

/-- The digits of a fraction of `10 ^ width`, without trailing zeros, after a point. -/
def fractionText (part width : Nat) : List Char :=
  let digits := Nat.toDigits 10 part
  let padded := List.replicate (width - digits.length) '0' ++ digits
  let kept := (padded.reverse.dropWhile (· = '0')).reverse
  if kept.isEmpty then [] else '.' :: kept

/-- The span in its largest unit of a whole number or more, with the fraction behind a point. -/
def «show» (d : Duration) : String :=
  if 0 < d.seconds then text d.seconds d.subsecond 9 "s"
  else if 1000000 ≤ d.nanos then text (d.nanos / 1000000) (d.nanos % 1000000) 6 "ms"
  else if 1000 ≤ d.nanos then text (d.nanos / 1000) (d.nanos % 1000) 3 "µs"
  else text d.nanos 0 0 "ns"
where
  text (whole part width : Nat) (unit : String) : String :=
    showNat whole ++ String.ofList (fractionText part width) ++ unit

/-- What is in range is taken as it is. -/
theorem ofNanos?_nanos (d : Duration) : ofNanos? d.nanos = some d := dif_pos d.bounded

/-- Only what is in range is taken, and it is not changed. -/
theorem ofNanos?_eq_some_iff {nanos : Nat} {d : Duration} :
    ofNanos? nanos = some d ↔ d.nanos = nanos := by
  constructor
  · intro taken
    unfold ofNanos? at taken
    split at taken
    · simp only [Option.some.injEq] at taken; subst taken; rfl
    · simp at taken
  · rintro rfl; exact ofNanos?_nanos d

/-- **A sum is exact up to the longest span and stops there.** -/
theorem nanos_add (d e : Duration) : (d + e).nanos = min (d.nanos + e.nanos) longest.nanos := by
  change (ofNanos (d.nanos + e.nanos)).nanos = _
  unfold ofNanos ofNanos?
  split
  · simp [longest]; omega
  · simp [longest]; omega

end Duration

end LoadTest
