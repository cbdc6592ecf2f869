/-
**Composed text.**

A text may write a letter with marks in several ways. One of them is chosen: every composed
character is taken apart, marks in a row are ordered by their classes, and then each character is
joined to the one that began, where the two have a composed character and none that stands between
them is in the way.

* `Composite.decompose`, `Composite.order` and `Composite.join`: the three steps;
* `compose`: the chosen writing of a text.
-/

import LoadTest.Text.Composite

namespace LoadTest.Text

namespace Composite

/-- The parts of a code point, none of which is composed. -/
def decompose (point : Nat) : List Nat :=
  match pair? point with
  | some (first, second) => if first < point then decompose first ++ [second] else [point]
  | none => [point]
termination_by point

/-- Puts a code point before others that are in order: a mark goes behind those of lesser classes. -/
def place (point : Nat) : List Nat → List Nat
  | [] => [point]
  | next :: rest =>
    if combiningClass next ≠ 0 ∧ combiningClass next < combiningClass point then
      next :: place point rest
    else point :: next :: rest

/-- Orders marks in a row by their classes, those of one class as they stand. -/
def order (points : List Nat) : List Nat := points.foldr place []

/-- Whether nothing between stands in the way of a code point. -/
def isNear (between : List Nat) (point : Nat) : Bool :=
  match between.getLast? with
  | none => true
  | some last => combiningClass last < combiningClass point

/-- Joins code points to the one that began, behind which stand marks that did not join. -/
def joinFrom (begun : Option Nat) (between : List Nat) : List Nat → List Nat
  | [] => begun.toList ++ between
  | point :: rest =>
    match begun.bind fun first => if isNear between point then ofPair? first point else none with
    | some whole => joinFrom (some whole) between rest
    | none =>
      if combiningClass point = 0 then begun.toList ++ between ++ joinFrom (some point) [] rest
      else joinFrom begun (between ++ [point]) rest

/-- Joins code points where they have a composed character. -/
def join (points : List Nat) : List Nat := joinFrom none [] points

end Composite

/-- **The chosen writing of a text.** -/
def compose (text : List Char) : List Char :=
  let points := text.flatMap fun c => Composite.decompose c.toNat
  (Composite.join (Composite.order points)).map Char.ofNat

end LoadTest.Text
