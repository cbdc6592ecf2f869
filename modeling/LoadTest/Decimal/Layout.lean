/-
**How a selected decimal is written.**

Selecting the digits is one matter, laying them out another. A `Layout` holds the decisions of one
output: which exponents are written positionally, whether a whole number keeps its `.0`, and which
way a tie between two equally short decimals goes.

* `Layout.finite`: digits with a point, or with an exponent that always shows its sign;
* `plain`: the layout of numbers inside texts, positional throughout;
* `showNat`: a whole number in decimal digits.
-/

import LoadTest.Decimal.Shortest

namespace LoadTest.Decimal

/-- A whole number in decimal digits. -/
def showNat (n : Nat) : String := String.ofList (Nat.toDigits 10 n)

/-- The decisions of a number format. -/
structure Layout where
  /-- The exponents `e` of the leading digit with `from ≤ e < below` are written positionally;
  without bounds all of them are. -/
  positional : Option (Int × Int)
  /-- Whole numbers keep a point and a zero. -/
  pointZero : Bool
  /-- Which of two equally short and equally near decimals is written. -/
  tie : Tie

/-- Numbers inside texts: no exponent ever, no `.0`. -/
def plain : Layout := ⟨none, false, .up⟩

namespace Layout

/-- Digits with the point in their midst, after them or before them. -/
def positionalText (layout : Layout) (digits : List Char) (exponent : Int) : List Char :=
  let lead := exponent + digits.length - 1
  if 0 ≤ exponent then
    digits ++ List.replicate exponent.toNat '0' ++ (if layout.pointZero then ['.', '0'] else [])
  else if 0 ≤ lead then
    digits.take (lead + 1).toNat ++ '.' :: digits.drop (lead + 1).toNat
  else
    '0' :: '.' :: List.replicate (-lead - 1).toNat '0' ++ digits

/-- One digit before the point and a signed exponent. -/
def exponentText (digits : List Char) (exponent : Int) : List Char :=
  let lead := exponent + digits.length - 1
  let fraction := digits.drop 1
  digits.take 1 ++ (if fraction.isEmpty then [] else '.' :: fraction) ++
    'e' :: (if lead < 0 then '-' else '+') :: Nat.toDigits 10 lead.natAbs

/-- The text of a decimal. -/
def digitsText (layout : Layout) (d : Digits) : List Char :=
  let digits := Nat.toDigits 10 d.digits
  let lead := d.exponent + digits.length - 1
  match layout.positional with
  | none => layout.positionalText digits d.exponent
  | some (first, limit) =>
    if first ≤ lead ∧ lead < limit then layout.positionalText digits d.exponent
    else exponentText digits d.exponent

/-- The text of a finite value; minus zero keeps its sign. -/
def finite (layout : Layout) (x : Float) : String :=
  let text := layout.digitsText ((Binary.ofBits x.toBits).shortest layout.tie)
  String.ofList (if isSignNegative x then '-' :: text else text)

/-- The text of any value: what is no number has a name, and infinity too. -/
def render (layout : Layout) (x : Float) : String :=
  if x.isNaN then "NaN"
  else if x.isInf then (if isSignNegative x then "-inf" else "inf")
  else layout.finite x

end Layout

/-- A number as it stands inside a text. -/
def showFloat (x : Float) : String := plain.render x

end LoadTest.Decimal
