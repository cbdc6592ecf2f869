/-
**Tables of code points.**

A property of characters is a table: entries with blanks between them, each for one code point or
for several at one distance from each other. An entry is written in hexadecimal digits: `AD` for
one, `61-7A` for a range, `100-12E/2` for every second one of a range. Behind a colon stands what
the first of them stands for, as one or more numbers: `AA:61`, `BD:31,2044,32`.

* `PointTable.ofText`: the table that a text writes;
* `PointTable.contains`: whether a code point is in it;
* `PointTable.values?`: the numbers behind the colon of its entry;
* `PointTable.shifted?`: those numbers, raised by how far the code point lies behind the first.
-/

import LoadTest.Text.Base
import LoadTest.Text.Cut

namespace LoadTest.Text

/-- Code points at one distance from each other, and what the first of them stands for. -/
structure PointRun where
  first : Nat
  last : Nat
  step : Nat
  values : List Nat
deriving DecidableEq

namespace PointRun

/-- Whether a code point is in the run. -/
def contains (run : PointRun) (point : Nat) : Bool :=
  run.first ≤ point && point ≤ run.last && (point - run.first) % run.step = 0

/-- The parts around a mark; all of a text without the mark stands before it. -/
def around (mark : Char) (text : List Char) : List Char × List Char :=
  (splitFirst mark text).getD (text, [])

/-- A number of at least one digit. -/
def number? (digits : List Char) : Option Nat :=
  if digits.isEmpty then none else inBase? 16 digits

/-- The run that an entry writes. -/
def ofEntry? (entry : List Char) : Option PointRun := do
  let (points, values) := around ':' entry
  let (bounds, step) := around '/' points
  let (first, last) := around '-' bounds
  let first ← number? first
  some {
    first
    last := (number? last).getD first
    step := (number? step).getD 1
    values := (values.splitOn ',').filterMap number? }

end PointRun

/-- A table of code points. -/
abbrev PointTable := List PointRun

namespace PointTable

/-- **The table that a text writes.** -/
def ofText (text : String) : PointTable :=
  (text.toList.splitOnP Char.isWhitespace).filterMap PointRun.ofEntry?

/-- The entry of a code point. -/
def run? (table : PointTable) (point : Nat) : Option PointRun :=
  table.find? (PointRun.contains · point)

/-- Whether a code point is in the table. -/
def contains (table : PointTable) (point : Nat) : Bool := table.any (PointRun.contains · point)

/-- What the entry of a code point stands for. -/
def values? (table : PointTable) (point : Nat) : Option (List Nat) :=
  (table.run? point).map PointRun.values

/-- What a code point stands for where a range stands for a range. -/
def shifted? (table : PointTable) (point : Nat) : Option (List Nat) :=
  (table.run? point).map fun run => run.values.map (· + (point - run.first))

end PointTable

end LoadTest.Text
