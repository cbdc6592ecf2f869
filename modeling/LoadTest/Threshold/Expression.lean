/-
**Threshold expressions.**

An expression compares a statistic with a bound: `p(95)<500`, `rate <= 0.02`. The longest
comparator counts, and `===` is another way to write `==`. The comparator is looked for first,
then the statistic is read and last the bound, which must be finite.

* `Comparator.spellings`: how comparators are written;
* `Expression.parse` and `Expression.show`: reading and writing;
* `Expression.holds`: whether an observed value meets the bound.
-/

import LoadTest.Threshold.Statistic

namespace LoadTest

open Decimal Text

/-- How two numbers are compared. -/
inductive Comparator where
  | lt
  | le
  | gt
  | ge
  | eq
  | ne
deriving DecidableEq

namespace Comparator

/-- Whether the comparison holds; with what is no number only `!=` does. -/
def compare (comparator : Comparator) (observed bound : Float) : Bool :=
  match comparator with
  | lt => observed < bound
  | le => observed ≤ bound
  | gt => bound < observed
  | ge => bound ≤ observed
  | eq => observed == bound
  | ne => observed != bound

/-- The comparator as it is written. -/
def «show» : Comparator → String
  | lt => "<"
  | le => "<="
  | gt => ">"
  | ge => ">="
  | eq => "=="
  | ne => "!="

/-- The characters that comparators are made of. -/
def isMark (c : Char) : Bool := c = '<' || c = '>' || c = '=' || c = '!'

/-- How comparators are written, a longer spelling before what it begins with. -/
def spellings : List (List Char × Comparator) :=
  [(['=', '=', '='], eq), (['<', '='], le), (['>', '='], ge), (['=', '='], eq), (['!', '='], ne),
    (['<'], lt), (['>'], gt)]

/-- The comparator that a text begins with, and what follows it. -/
def split? (text : List Char) : Option (Comparator × List Char) :=
  spellings.findSome? fun spelling => (dropLead? spelling.1 text).map fun rest => (spelling.2, rest)

end Comparator

/-- A statistic compared with a bound. -/
structure Expression where
  statistic : Statistic
  comparator : Comparator
  bound : Float
deriving DecidableEq

/-- Why a text is no expression. -/
inductive ExpressionFault where
  | missingComparator
  | invalidComparator (text : String)
  | statistic (fault : StatisticFault)
  | invalidBound (text : String)
  | infiniteBound (bound : Float)
deriving DecidableEq

/-- The wording of the fault. -/
def ExpressionFault.message : ExpressionFault → String
  | .missingComparator => "missing comparator"
  | .invalidComparator text => "invalid comparator in " ++ quote text
  | .statistic fault => fault.message
  | .invalidBound text => "invalid bound " ++ quote text
  | .infiniteBound bound => "bound " ++ showFloat bound ++ " is not finite"

namespace Expression

/-- The bound of an expression. -/
def parseBound (text : List Char) : Except ExpressionFault Float :=
  match readFloat? text with
  | none => .error (.invalidBound (String.ofList text))
  | some bound => if bound.isFinite then .ok bound else .error (.infiniteBound bound)

/-- **The expression that a text stands for.** -/
def parse (input : String) : Except ExpressionFault Expression :=
  let text := trim input.toList
  let rest := text.dropWhile fun c => !Comparator.isMark c
  if rest.isEmpty then .error .missingComparator
  else
    match Comparator.split? rest with
    | none => .error (.invalidComparator (String.ofList rest))
    | some (comparator, bound) => do
      let statistic ← match Statistic.parse (trim (text.takeWhile fun c => !Comparator.isMark c)) with
        | .ok statistic => .ok statistic
        | .error fault => .error (.statistic fault)
      .ok ⟨statistic, comparator, ← parseBound (trim bound)⟩

/-- The expression as it is written. -/
def «show» (expression : Expression) : String :=
  expression.statistic.show ++ expression.comparator.show ++ showFloat expression.bound

/-- Whether an observed value meets the bound. -/
def holds (expression : Expression) (observed : Float) : Bool :=
  expression.comparator.compare observed expression.bound

end Expression

end LoadTest
