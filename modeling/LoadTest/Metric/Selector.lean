/-
**Metric selectors.**

A selector names a metric, and optionally the tags that a sample must carry:
`name{key:value,other:value}`. Blanks around the parts do not count, empty pairs are
skipped, and the tags are kept in order.

* `Selector.parse?` and `Selector.show`: reading and writing;
* `Selector.matches`: whether a sample belongs to the selector.
-/

import LoadTest.Table
import LoadTest.Text.Blank
import LoadTest.Text.Cut

namespace LoadTest

open Text

/-- The tags of a sample. -/
abbrev Tags := Table String

/-- A metric with the tags that a sample must carry. -/
structure Selector where
  name : String
  tags : List (String × String)
deriving DecidableEq, Inhabited

namespace Selector

/-- The order of tags: by key, then by value. -/
def tagLE (first second : String × String) : Bool :=
  first.1 < second.1 || (first.1 = second.1 && first.2 ≤ second.2)

/-- One pair `key:value`; the key must not be empty. -/
def pair? (text : List Char) : Option (String × String) :=
  match splitFirst ':' text with
  | none => none
  | some (key, value) =>
    if (trim key).isEmpty then none
    else some (String.ofList (trim key), String.ofList (trim value))

/-- **The selector that a text stands for.** -/
def parse? (input : String) : Option Selector :=
  let text := trim input.toList
  match splitFirst '\x7b' text with
  | none =>
    if text.isEmpty || text.contains '\x7d' then none else some ⟨String.ofList text, []⟩
  | some (before, after) => do
    let inner ← dropTail? ['\x7d'] after
    let name := trim before
    if name.isEmpty then none
    let pieces := (inner.splitOn ',').filter fun piece => !(trim piece).isEmpty
    let tags ← pieces.mapM pair?
    some ⟨String.ofList name, tags.mergeSort tagLE⟩

/-- Whether the selector asks for tags. -/
def isSubmetric (selector : Selector) : Bool := !selector.tags.isEmpty

/-- The selector as it is written. -/
def «show» (selector : Selector) : String :=
  if selector.isSubmetric then
    selector.name ++ "\x7b" ++
      String.intercalate "," (selector.tags.map fun tag => tag.1 ++ ":" ++ tag.2) ++ "\x7d"
  else selector.name

/-- Whether a sample of a metric with some tags belongs to the selector. -/
def «matches» (selector : Selector) (metric : String) (tags : Tags) : Bool :=
  selector.name = metric && selector.tags.all fun tag => tags.get? tag.1 = some tag.2

end Selector

end LoadTest
