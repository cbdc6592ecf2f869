/-
**Number literals.**

A literal is an optional sign before digits with at most one point among or around them and an
optional exponent, or before one of the words `inf`, `infinity` and `nan` in any case. It has no
blank, no separator and no base.

* `Literal.parse?`: the reading of a text, which must be used up;
* `Literal.value`: the nearest `Float`, infinity where the number is too large;
* `digitsValue`: the number that decimal digits stand for.
-/

import LoadTest.Decimal.Binary

namespace LoadTest.Decimal

/-- The number that a list of decimal digits stands for. -/
def digitsValue (digits : List Char) : Nat :=
  digits.foldl (fun value c => 10 * value + (c.toNat - '0'.toNat)) 0

/-- Why a text is no whole number: decimal digits, after a plus sign if one is written. -/
inductive WordFault where
  | empty
  | invalidDigit
  | tooLarge
deriving DecidableEq

/-- The wording of the fault. -/
def WordFault.message : WordFault → String
  | .empty => "cannot parse integer from empty string"
  | .invalidDigit => "invalid digit found in string"
  | .tooLarge => "number too large to fit in target type"

/-- Reads a whole number up to `limit`. The first character that is no digit is a fault, and so is
a number that grows beyond the limit before such a character comes. -/
def readWord (limit : Nat) (text : List Char) : Except WordFault Nat :=
  match text with
  | [] => .error .empty
  | ['+'] => .error .invalidDigit
  | '+' :: digits => digits.foldlM step 0
  | digits => digits.foldlM step 0
where
  step (value : Nat) (c : Char) : Except WordFault Nat :=
    if c.isDigit then
      let next := 10 * value + (c.toNat - '0'.toNat)
      if limit < next then .error .tooLarge else .ok next
    else .error .invalidDigit

/-- What a literal says, before it is rounded to a `Float`. -/
inductive Magnitude where
  /-- `digits · 10 ^ exponent` -/
  | finite (digits : Nat) (exponent : Int)
  | infinite
  | notANumber
deriving DecidableEq

/-- A literal with its sign. -/
structure Literal where
  negative : Bool
  magnitude : Magnitude
deriving DecidableEq

namespace Literal

/-- Drops a sign and tells whether it is a minus. -/
def splitSign : List Char → Bool × List Char
  | '-' :: rest => (true, rest)
  | '+' :: rest => (false, rest)
  | text => (false, text)

/-- The exponent part: nothing, or `e` in either case with a signed whole number. -/
def exponent? : List Char → Option Int
  | [] => some 0
  | c :: rest =>
    if c = 'e' ∨ c = 'E' then
      let (negative, digits) := splitSign rest
      if digits.isEmpty || !digits.all Char.isDigit then none
      else some (if negative then -(digitsValue digits : Int) else digitsValue digits)
    else none

/-- Digits with a point and an exponent. -/
def decimal? (text : List Char) : Option Magnitude :=
  let whole := text.takeWhile Char.isDigit
  let rest := text.dropWhile Char.isDigit
  let (fraction, tail) := match rest with
    | '.' :: rest => (rest.takeWhile Char.isDigit, rest.dropWhile Char.isDigit)
    | rest => ([], rest)
  if whole.isEmpty && fraction.isEmpty then none
  else (exponent? tail).map fun exponent =>
    .finite (digitsValue (whole ++ fraction)) (exponent - fraction.length)

/-- A number in words or digits, without its sign. -/
def magnitude? (text : List Char) : Option Magnitude :=
  let word := text.map Char.toLower
  if word = ['i', 'n', 'f'] ∨ word = ['i', 'n', 'f', 'i', 'n', 'i', 't', 'y'] then some .infinite
  else if word = ['n', 'a', 'n'] then some .notANumber
  else decimal? text

/-- **The literal that a text is.** -/
def parse? (text : List Char) : Option Literal :=
  let (negative, rest) := splitSign text
  (magnitude? rest).map (Literal.mk negative)

end Literal

/-- Positive infinity. -/
def infinity : Float := Float.ofBits 0x7FF0000000000000

/-- What is no number. -/
def notANumber : Float := Float.ofBits 0x7FF8000000000000

/-- The float nearest to `digits · 10 ^ exponent`, a tie going to the even significand. Beyond the
largest power of ten that a float reaches the value is infinite, below the least it is zero. -/
def nearest (digits : Nat) (exponent : Int) : Float :=
  let lead := exponent + (Nat.toDigits 10 digits).length
  if digits = 0 ∨ lead < -400 then Float.ofScientific 0 false 0
  else if 400 < lead then infinity
  else Float.ofScientific digits (decide (exponent < 0)) exponent.natAbs

/-- The float without its sign. -/
def Magnitude.value : Magnitude → Float
  | .finite digits exponent => nearest digits exponent
  | .infinite => infinity
  | .notANumber => LoadTest.Decimal.notANumber

/-- The float that a literal stands for. -/
def Literal.value (literal : Literal) : Float :=
  if literal.negative then -literal.magnitude.value else literal.magnitude.value

/-- Reads a number literal. -/
def readFloat? (text : List Char) : Option Float := (Literal.parse? text).map Literal.value

end LoadTest.Decimal
