/-
**Variables of the environment.**

Some texts of a plan may name variables as `${NAME}`, which are replaced when the plan is resolved.

* `Environment.expand`: the text with every variable replaced, or the first one that is not set.
-/

import LoadTest.Text.Placeholder

namespace LoadTest

open Text

/-- The variables that are set. -/
abbrev Environment := String → Option String

/-- A variable stands between a dollar sign with a brace and a closing brace. -/
def variableMarks : Marks := ⟨['$', '\x7b'], ['\x7d'], by simp⟩

/-- The name of a variable that is not set. -/
structure MissingVariable where
  name : String
deriving DecidableEq

namespace Environment

/-- The value of a variable. -/
def value (environment : Environment) (name : List Char) : Except MissingVariable (List Char) :=
  match environment (String.ofList name) with
  | some value => .ok value.toList
  | none => .error ⟨String.ofList name⟩

/-- **The text with every variable replaced.** -/
def expand (environment : Environment) (text : String) : Except MissingVariable String :=
  (Placeholder.fill variableMarks environment.value text.toList).map String.ofList

end Environment

end LoadTest
