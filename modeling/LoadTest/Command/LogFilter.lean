/-
**What the log shows.**

A log filter is a list of directives with commas between them. A directive says how much is shown:
`info` shows all down to that level, `volley=warn` says so of the areas whose names begin with a
word, and braces ask for a field that a line must have. Of the directives that care about a line the
one with the longest name decides; a line that none cares about is not shown.

* `Verbosity`: how much is shown;
* `Directive.parse?`: one directive of a text;
* `LogFilter.parse?`: a filter, of which every directive must be well formed;
* `LogFilter.shows`: whether a filter shows the program's lines of a level.
-/

import LoadTest.Run.User
import LoadTest.Text.Cut
import LoadTest.Decimal.Literal
import LoadTest.Text.Blank

namespace LoadTest

open Text Decimal

/-- How much is shown, from nothing to everything. -/
inductive Verbosity where
  | off
  | error
  | warn
  | info
  | debug
  | trace
deriving DecidableEq

namespace Verbosity

/-- The verbosities by their words, in ascending order. -/
def words : List (String × Verbosity) :=
  [("off", off), ("error", error), ("warn", warn), ("info", info), ("debug", debug),
    ("trace", trace)]

/-- The verbosity that a text names, by its place in the order or by its word in any case. -/
def parse? (text : List Char) : Option Verbosity :=
  let byWord := words.lookup (String.ofList (text.map Char.toLower))
  match readWord maxWord text with
  | .ok place => (words[place]?).map Prod.snd
  | .error _ => byWord

/-- Whether lines of a level are shown. -/
def admits : Verbosity → Level → Bool
  | off, _ => false
  | error, level => level = .error
  | warn, level => level ≠ .info
  | _, _ => true

end Verbosity

/-- A field that a directive asks for. -/
structure FieldDemand where
  name : List Char
  /-- A certain value is asked for too. -/
  hasValue : Bool
deriving DecidableEq

/-- A rule of a log filter. -/
structure Directive where
  /-- What the name of an area begins with; nothing for all areas. -/
  area : List Char
  /-- A certain activity is asked for. -/
  hasActivity : Bool
  field : Option FieldDemand
  verbosity : Verbosity
deriving DecidableEq

namespace Directive

/-- What stands behind the equals sign; nothing stands for everything. -/
def level? (text : List Char) : Option Verbosity :=
  if text.isEmpty then some .trace else Verbosity.parse? text

/-- What stands behind the brackets. -/
def behind? (area : List Char) (hasActivity : Bool) (field : Option FieldDemand) :
    List Char → Option Directive
  | [] => some ⟨area, hasActivity, field, .trace⟩
  | '=' :: level => (level? level).map fun verbosity => ⟨area, hasActivity, field, verbosity⟩
  | _ => none

/-- The field of a text: a name, and perhaps a value behind an equals sign. -/
def field? (text : List Char) : Option FieldDemand :=
  if text.isEmpty then none
  else
    match splitFirst '=' text with
    | some (name, _) => some ⟨name, true⟩
    | none => some ⟨text, false⟩

/-- What stands in brackets, and behind them: the name of an activity, and perhaps a field in
braces. -/
def bracketed? (area text : List Char) : Option Directive :=
  let name := text.takeWhile fun c => c != ']' && c != '\x7b'
  match text.dropWhile fun c => c != ']' && c != '\x7b' with
  | ']' :: rest => behind? area true none rest
  | _ :: rest =>
    match splitFirst '\x7d' rest with
    | some (field, ']' :: rest) => (field? field).bind fun field =>
        behind? area (!name.isEmpty) (some field) rest
    | _ => none
  | [] => none

/-- Whether a directive may begin with a character; what lies beyond ASCII counts as a letter. -/
def mayBegin (c : Char) : Bool := c.isAlphanum || 0x80 ≤ c.toNat || ['-', ':', '_'].contains c

/-- **The directive of a text.** A word alone is a verbosity, or else an area that is shown as a
whole. -/
def parse? (text : List Char) : Option Directive :=
  match trim text with
  | [] => none
  | '[' :: rest => bracketed? [] rest
  | first :: text =>
    let word := first :: text.takeWhile fun c => c != '=' && c != '['
    if !mayBegin first then none
    else
      match text.dropWhile fun c => c != '=' && c != '[' with
      | [] =>
        match Verbosity.parse? word with
        | some verbosity => some ⟨[], false, none, verbosity⟩
        | none => some ⟨word, false, none, .trace⟩
      | '[' :: rest => bracketed? word rest
      | _ :: level => (level? level).map fun verbosity => ⟨word, false, none, verbosity⟩

/-- Whether a directive cares about lines of an area that are no part of an activity. Such a line
has a message and nothing else. -/
def cares (directive : Directive) (area : List Char) : Bool :=
  directive.area.isPrefixOf area && !directive.hasActivity &&
    directive.field.all fun field => field.name = "message".toList && !field.hasValue

/-- How much a directive asks for: its name counts before its field. -/
def weight (directive : Directive) : Nat :=
  2 * directive.area.length + (if directive.field.isSome then 1 else 0)

end Directive

/-- The directives of a filter. -/
abbrev LogFilter := List Directive

namespace LogFilter

/-- The area of the program's lines. -/
def programArea : List Char := "volley".toList

/-- The filter that shows only lines of the program. -/
def ofVerbosity (verbosity : Verbosity) : LogFilter := [⟨programArea, false, none, verbosity⟩]

/-- **The filter of a text**, of which every directive must be well formed. -/
def parse? (text : String) : Option LogFilter :=
  ((text.toList.splitOn ',').filter fun piece => !piece.isEmpty).mapM Directive.parse?

/-- The directive that decides about the program's lines; of equal ones the last. -/
def deciding? (filter : LogFilter) : Option Directive :=
  (filter.filter fun directive => directive.cares programArea).foldl (fun best directive =>
    match best with
    | none => some directive
    | some other => if other.weight ≤ directive.weight then some directive else best) none

/-- **Whether a filter shows the program's lines of a level.** -/
def shows (filter : LogFilter) (level : Level) : Bool :=
  (deciding? filter).any fun directive => directive.verbosity.admits level

end LogFilter

end LoadTest
