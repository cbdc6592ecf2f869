/-
**Durations in units.**

A text such as `1h 30m` is a sequence of numbers with a unit each, read from left to right; the
first fault ends the reading. Blanks may stand before a number and between its digits. A fraction
counts only if it is a whole number of nanoseconds, or of seconds for units from the hour on.

* `TimeUnit`: the units, their names and their lengths;
* `Units.read`: the duration of a text, as a fold over its characters;
* `Units.format`: the units that a duration is made of, the largest first.
-/

import LoadTest.Duration.Basic
import LoadTest.Text.Blank

namespace LoadTest

open Decimal Text

/-- The units of time. A month is 30.44 days and a year 365.25 days. -/
inductive TimeUnit where
  | nanosecond | microsecond | millisecond | second | minute | hour | day | week | month | year
deriving DecidableEq

namespace TimeUnit

/-- The names that a unit is read by. -/
def names : TimeUnit → List String
  | nanosecond => ["nanos", "nsec", "ns"]
  | microsecond => ["usec", "us", "µs"]
  | millisecond => ["millis", "msec", "ms"]
  | second => ["seconds", "second", "secs", "sec", "s"]
  | minute => ["minutes", "minute", "min", "mins", "m"]
  | hour => ["hours", "hour", "hr", "hrs", "h"]
  | day => ["days", "day", "d"]
  | week => ["weeks", "week", "wk", "wks", "w"]
  | month => ["months", "month", "M"]
  | year => ["years", "year", "yr", "yrs", "y"]

/-- All units, the shortest first. -/
def all : List TimeUnit :=
  [nanosecond, microsecond, millisecond, second, minute, hour, day, week, month, year]

/-- The unit of a name. -/
def ofName? (name : String) : Option TimeUnit := all.find? fun unit => unit.names.contains name

/-- The length of a unit in nanoseconds. -/
def nanos : TimeUnit → Nat
  | nanosecond => 1
  | microsecond => 1000
  | millisecond => 1000000
  | second => nanosPerSecond
  | minute => 60 * nanosPerSecond
  | hour => 3600 * nanosPerSecond
  | day => 86400 * nanosPerSecond
  | week => 604800 * nanosPerSecond
  | month => 2630016 * nanosPerSecond
  | year => 31557600 * nanosPerSecond

/-- What a number of this unit is counted in, in nanoseconds: the count has to fit 64 bits. -/
def grain : TimeUnit → Nat
  | nanosecond | microsecond | millisecond => 1
  | _ => nanosPerSecond

/-- What a fraction of this unit is counted in: nanoseconds up to the minute, seconds from the
hour on. A nanosecond has no fractions. -/
def fractionGrain? : TimeUnit → Option Nat
  | nanosecond => none
  | microsecond | millisecond | second | minute => some 1
  | _ => some nanosPerSecond

end TimeUnit

/-- Why a text is no duration in units. -/
inductive UnitsFault where
  | empty
  | numberExpected (offset : Nat)
  | invalidCharacter (offset : Nat)
  | unitNeeded (value : Nat)
  | unknownUnit (name : String)
  | outOfRange
deriving DecidableEq

/-- The wording of the fault. -/
def UnitsFault.message : UnitsFault → String
  | .empty => "value was empty"
  | .numberExpected offset => "expected number at " ++ showNat offset
  | .invalidCharacter offset => "invalid character at " ++ showNat offset
  | .unitNeeded value =>
    "time unit needed, for example " ++ showNat value ++ "sec or " ++ showNat value ++ "ms"
  | .unknownUnit name =>
    "unknown time unit \"" ++ name ++ "\", supported units: ns, us/µs, ms, sec, min, hours, " ++
      "days, weeks, months, years (and few variations)"
  | .outOfRange =>
    "number is too large or cannot be represented without a lack of precision " ++
      "(values below 1ns are not supported)"

namespace Units

/-- A fraction `part / whole`, where `whole` is the power of ten of its digits. -/
structure Fraction where
  part : Nat
  whole : Nat
deriving DecidableEq

/-- Where the reading stands between two characters. -/
inductive Phase where
  /-- nothing but blanks so far -/
  | opening
  /-- after a unit that ended at this offset -/
  | between (offset : Nat)
  /-- in the digits before a point -/
  | whole (count : Nat)
  /-- behind the point, which stood at this offset if nothing has followed it yet -/
  | fraction (count : Nat) (fraction : Fraction) (point : Option Nat)
  /-- in the letters of a unit, the last one first -/
  | unit (count : Nat) (fraction : Option Fraction) (name : List Char)
deriving DecidableEq

/-- A reading: the offset of the next character in bytes, the sum so far, and the phase. -/
structure State where
  offset : Nat
  total : Duration
  phase : Phase
deriving DecidableEq

/-- A number that has to fit 64 bits. -/
def word (n : Nat) : Except UnitsFault Nat := if n ≤ maxWord then .ok n else .error .outOfRange

/-- Letters of which units are made. -/
def isUnitLetter (c : Char) : Bool := c.isAlpha || c = 'µ'

/-- The value of a decimal digit. -/
def digit (c : Char) : Nat := c.toNat - '0'.toNat

/-- Adds `count` grains. A count, and nanoseconds together with those that the sum already has
beside its seconds, have to fit 64 bits. -/
def addGrains (total : Duration) (count grain : Nat) : Except UnitsFault Duration := do
  let count ← word count
  let _ ← word (if grain = 1 then total.subsecond + count else count)
  match Duration.ofNanos? (total.nanos + count * grain) with
  | some sum => .ok sum
  | none => .error .outOfRange

/-- Adds a number of units: first the whole ones, then the fraction. -/
def addUnits (total : Duration) (count : Nat) (fraction : Option Fraction) (name : List Char) :
    Except UnitsFault Duration :=
  match TimeUnit.ofName? (String.ofList name.reverse) with
  | none =>
    if name.isEmpty then .error (.unitNeeded count)
    else .error (.unknownUnit (String.ofList name.reverse))
  | some unit => do
    let sum ← addGrains total (count * (unit.nanos / unit.grain)) unit.grain
    match fraction with
    | none => .ok sum
    | some fraction =>
      match unit.fractionGrain? with
      | none => .error .outOfRange
      | some grain =>
        let scaled ← word (fraction.part * (unit.nanos / grain))
        if scaled % fraction.whole = 0 then addGrains sum (scaled / fraction.whole) grain
        else .error .outOfRange

/-- The reading after one more character. -/
def step (state : State) (c : Char) : Except UnitsFault State :=
  let next := state.offset + c.utf8Size
  match state.phase with
  | .opening =>
    if c.isDigit then .ok ⟨next, state.total, .whole (digit c)⟩
    else if isBlank c then .ok { state with offset := next }
    else .error (.numberExpected 0)
  | .between offset =>
    if c.isDigit then .ok ⟨next, state.total, .whole (digit c)⟩
    else if isBlank c then .ok { state with offset := next }
    else .error (.numberExpected offset)
  | .whole count =>
    if c.isDigit then do
      let count ← word (10 * count + digit c)
      .ok ⟨next, state.total, .whole count⟩
    else if isBlank c then .ok { state with offset := next }
    else if isUnitLetter c then .ok ⟨next, state.total, .unit count none [c]⟩
    else if c = '.' then .ok ⟨next, state.total, .fraction count ⟨0, 1⟩ (some state.offset)⟩
    else .error (.invalidCharacter state.offset)
  | .fraction count fraction point =>
    if c.isDigit then do
      let whole ← word (10 * fraction.whole)
      .ok ⟨next, state.total, .fraction count ⟨10 * fraction.part + digit c, whole⟩ none⟩
    else if isBlank c then .ok ⟨next, state.total, .fraction count fraction none⟩
    else if isUnitLetter c ∧ fraction.whole ≠ 1 then
      .ok ⟨next, state.total, .unit count (some fraction) [c]⟩
    else .error (.invalidCharacter (point.getD state.offset))
  | .unit count fraction name =>
    if c.isDigit then do
      let total ← addUnits state.total count fraction name
      .ok ⟨next, total, .whole (digit c)⟩
    else if isBlank c then do
      let total ← addUnits state.total count fraction name
      .ok ⟨next, total, .between next⟩
    else if isUnitLetter c then .ok ⟨next, state.total, .unit count fraction (c :: name)⟩
    else .error (.invalidCharacter state.offset)

/-- The end of the text ends the number that is being read. -/
def finish (state : State) : Except UnitsFault Duration :=
  match state.phase with
  | .opening => .error .empty
  | .between _ => .ok state.total
  | .whole count => addUnits state.total count none []
  | .fraction count fraction point =>
    if fraction.whole = 1 then .error (.invalidCharacter (point.getD state.offset))
    else addUnits state.total count (some fraction) []
  | .unit count fraction name => addUnits state.total count fraction name

/-- **The duration that a text in units stands for.** A zero needs no unit. -/
def read (text : List Char) : Except UnitsFault Duration :=
  if text = ['0'] then .ok Duration.zero
  else do finish (← text.foldlM step ⟨0, Duration.zero, .opening⟩)

/-- A number with its unit, a plural `s` where the unit takes one; nothing for zero. -/
def part (count : Nat) (unit : String) (plural : Bool) : List String :=
  if count = 0 then []
  else [showNat count ++ unit ++ (if plural && 1 < count then "s" else "")]

/-- **The units that a duration is made of**, without those it has none of. -/
def format (d : Duration) : String :=
  if d.isZero then "0s"
  else
    let yearRest := d.seconds % 31557600
    let monthRest := yearRest % 2630016
    let dayRest := monthRest % 86400
    String.intercalate " " <|
      part (d.seconds / 31557600) "year" true ++ part (yearRest / 2630016) "month" true ++
      part (monthRest / 86400) "day" true ++ part (dayRest / 3600) "h" false ++
      part (dayRest % 3600 / 60) "m" false ++ part (dayRest % 60) "s" false ++
      part (d.subsecond / 1000000) "ms" false ++ part (d.subsecond / 1000 % 1000) "us" false ++
      part (d.subsecond % 1000) "ns" false

end Units

end LoadTest
