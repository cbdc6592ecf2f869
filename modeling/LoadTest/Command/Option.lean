/-
**The words of the command line.**

A command line names a command and gives it a plan file. In between stand options: switches, which
stand alone, and parameters, which have a value. Switches may be given before the command as well
as after it; some have a letter too.

* `Word.of`: what a word of the command line looks like;
* `Switch.find?`, `Parameter.find?`: the option of a word, where it may stand.
-/

import LoadTest.Text.Cut

namespace LoadTest

/-- What can be asked of the program. -/
inductive CommandName where
  | run
  | validate
  | help
deriving DecidableEq

namespace CommandName

/-- The word of a command. -/
def word : CommandName → String
  | run => "run"
  | validate => "validate"
  | help => "help"

/-- The command of a word. -/
def ofWord? (text : String) : Option CommandName :=
  [run, validate, help].find? fun command => command.word = text

end CommandName

/-- Where an option stands: after a command or before any. -/
abbrev Scope := Option CommandName

/-- An option that stands alone. -/
inductive Switch where
  | verbose
  | quiet
  | noThresholds
  | help
  | version
deriving DecidableEq

namespace Switch

/-- All switches. -/
def all : List Switch := [verbose, quiet, noThresholds, help, version]

/-- The word of a switch, without the dashes in front of it. -/
def word : Switch → String
  | verbose => "verbose"
  | quiet => "quiet"
  | noThresholds => "no-thresholds"
  | help => "help"
  | version => "version"

/-- The letter of a switch. -/
def letter? : Switch → Option Char
  | verbose => some 'v'
  | quiet => some 'q'
  | noThresholds => none
  | help => some 'h'
  | version => some 'V'

/-- Whether a switch may stand somewhere. -/
def isKnown (scope : Scope) : Switch → Bool
  | verbose | quiet | help => true
  | noThresholds => scope = some .run
  | version => scope = none

/-- The switch of a word. -/
def find? (scope : Scope) (text : String) : Option Switch :=
  all.find? fun switch => switch.isKnown scope && switch.word = text

/-- The switch of a letter. -/
def findLetter? (scope : Scope) (letter : Char) : Option Switch :=
  all.find? fun switch => switch.isKnown scope && switch.letter? = some letter

end Switch

/-- What has a value on the command line. -/
inductive Parameter where
  /-- the plan file, which is given without a word of its own -/
  | plan
  | maxUsers
  | duration
  | stage
  | format
  | summaryExport
  | baseUrl
deriving DecidableEq

namespace Parameter

/-- The parameters with a word of their own. -/
def all : List Parameter := [maxUsers, duration, stage, format, summaryExport, baseUrl]

/-- The word of a parameter, or what stands for the plan file. -/
def word : Parameter → String
  | plan => "PLAN"
  | maxUsers => "max-vus"
  | duration => "duration"
  | stage => "stage"
  | format => "format"
  | summaryExport => "summary-export"
  | baseUrl => "base-url"

/-- The parameter of a word; only a run has any. -/
def find? (scope : Scope) (text : String) : Option Parameter :=
  if scope = some .run then all.find? fun parameter => parameter.word = text else none

end Parameter

/-- What a word of the command line looks like. -/
inductive Word where
  /-- two dashes alone: no option stands behind them -/
  | separator
  /-- two dashes and a word, maybe with a value behind an equals sign -/
  | option (name : String) (value : Option String)
  /-- a dash and letters -/
  | letters (letters : List Char)
  | plain (text : String)
deriving DecidableEq

/-- **What a word looks like.** A dash alone is no option. -/
def Word.of (text : String) : Word :=
  match text.toList with
  | ['-', '-'] => separator
  | '-' :: '-' :: rest =>
    match Text.splitFirst '=' rest with
    | none => option (String.ofList rest) none
    | some (name, value) => option (String.ofList name) (some (String.ofList value))
  | '-' :: letter :: rest => letters (letter :: rest)
  | _ => plain text

end LoadTest
