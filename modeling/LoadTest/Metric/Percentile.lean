/-
**Percentiles.**

The rank of a percentile lies between two neighbours of the sorted values; the percentile divides
the way between them as the rank does.

* `percentile`: the percentile of ascending values, over any arithmetic.
-/

import LoadTest.Scalar

namespace LoadTest

variable {α : Type} [Scalar α]

/-- A number moved into an interval; what is no number stays as it is. -/
def clamp (x low high : α) : α :=
  if Scalar.lt x low then low else if Scalar.lt high x then high else x

/-- **The percentile of ascending values**, for a rank from 0 to 100. -/
def percentile (sorted : List α) (rank : α) : Option α :=
  match sorted with
  | [] => none
  | [value] => some value
  | values =>
    let place := clamp (rank / Scalar.ofNat 100) (Scalar.ofNat 0) (Scalar.ofNat 1) *
      Scalar.ofNat (values.length - 1)
    let lower := Scalar.floor place
    match values[lower]?, values[Scalar.ceil place]? with
    | some below, some above => some (below + (above - below) * (place - Scalar.ofNat lower))
    | _, _ => none

end LoadTest
