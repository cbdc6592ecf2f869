/-
**Digits of a base.**

The letters from `a` to `f`, in either case, go on where the decimal digits end.

* `hexDigit?`: the value of a digit;
* `inBase?`: the number that digits of a base stand for.
-/

namespace LoadTest.Text

/-- The value of a hexadecimal digit in either case. -/
def hexDigit? (c : Char) : Option Nat :=
  if c.isDigit then some (c.toNat - '0'.toNat)
  else if 'a' ≤ c ∧ c ≤ 'f' then some (c.toNat - 'a'.toNat + 10)
  else if 'A' ≤ c ∧ c ≤ 'F' then some (c.toNat - 'A'.toNat + 10)
  else none

/-- The number after one more digit, which must belong to the base. -/
def inBaseStep? (base value : Nat) (c : Char) : Option Nat := do
  let digit ← hexDigit? c
  if digit < base then some (base * value + digit) else none

/-- The number that digits of a base stand for, if all of them belong to it. -/
def inBase? (base : Nat) (digits : List Char) : Option Nat :=
  digits.foldlM (inBaseStep? base) 0

end LoadTest.Text
