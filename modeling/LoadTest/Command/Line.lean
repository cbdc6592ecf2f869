/-
**From the words of the command line to what is to be done.**

Words are taken one by one. The value of a parameter is looked at only when the next option is met
or the words are over, so a missing value shows late. No option is given twice in the same place,
and nobody asks for more and for less of the log in one place. What is wrong after the command is
found before what is wrong in front of it.

* `Draft`: what was read so far;
* `Reading.take`: what a word adds to it;
* `Invocation.parse`: what is to be done, or why nothing is.
-/

import LoadTest.Command.Option
import LoadTest.Command.RunOptions

namespace LoadTest

open Decimal

/-- Why nothing is to be done. -/
inductive Refusal where
  /-- only help is asked for -/
  | help (scope : Scope)
  /-- only the version is asked for -/
  | version
  /-- there are no words -/
  | noWords
  | unknown (word : String)
  /-- a switch has a value -/
  | valueNotTaken (option : String)
  | valueMissing (option : String)
  /-- a value that is none of those to choose from -/
  | notAChoice (option value : String)
  | badValue (option value reason : String)
  /-- two options do not go together, or an option is given twice -/
  | conflict (option other : String)
  | planMissing
  | commandMissing
  | notACommand (word : String)
deriving DecidableEq

/-- What was read so far in one place of the command line. -/
structure Draft where
  switches : List Switch := []
  plan : Option String := none
  maxUsers : Option Nat := none
  duration : Option Duration := none
  stages : List Stage := []
  format : Option SummaryFormat := none
  summaryExport : Option String := none
  baseUrl : Option String := none

namespace Draft

/-- A part that was not given before, with what it is now. -/
def once {β : Type} (parameter : Parameter) (before : Option β) (now : Except Refusal β) :
    Except Refusal (Option β) :=
  if before.isSome then .error (.conflict parameter.word parameter.word) else now.map some

/-- The path of a file, which is not empty. -/
def path (parameter : Parameter) (value : String) : Except Refusal String :=
  if value.isEmpty then .error (.valueMissing parameter.word) else .ok value

/-- The format of a value. -/
def formatOf (value : String) : Except Refusal SummaryFormat :=
  match SummaryFormat.ofWord? value with
  | some format => .ok format
  | none => .error (.notAChoice Parameter.format.word value)

/-- **The draft with the value of a parameter.** -/
def give (draft : Draft) (parameter : Parameter) (value : String) : Except Refusal Draft :=
  let bad (reason : String) : Refusal := .badValue parameter.word value reason
  match parameter with
  | .plan => do
    let plan ← once parameter draft.plan (path parameter value)
    return { draft with plan }
  | .maxUsers => do
    let most := (readWord maxWord value.toList).mapError fun fault => bad fault.message
    let maxUsers ← once parameter draft.maxUsers most
    return { draft with maxUsers }
  | .duration => do
    let span := (Duration.parse value).mapError fun fault => bad fault.message
    let duration ← once parameter draft.duration span
    return { draft with duration }
  | .stage => do
    let stage ← (Stage.parse value).mapError fun fault => bad fault.message
    return { draft with stages := draft.stages ++ [stage] }
  | .format => do
    let format ← once parameter draft.format (formatOf value)
    return { draft with format }
  | .summaryExport => do
    let summaryExport ← once parameter draft.summaryExport (path parameter value)
    return { draft with summaryExport }
  | .baseUrl => do
    let baseUrl ← once parameter draft.baseUrl (.ok value)
    return { draft with baseUrl }

/-- The draft with a switch. -/
def turnOn (draft : Draft) (scope : Scope) (switch : Switch) : Except Refusal Draft :=
  match switch with
  | .help => .error (.help scope)
  | .version => .error .version
  | _ =>
    if draft.switches.contains switch then .error (.conflict switch.word switch.word)
    else .ok { draft with switches := switch :: draft.switches }

/-- Whether a switch was given. -/
def has (draft : Draft) (switch : Switch) : Bool := draft.switches.contains switch

/-- The draft, unless it asks for more and for less of the log. -/
def settled (draft : Draft) : Except Refusal Draft :=
  if draft.has .verbose && draft.has .quiet then
    .error (.conflict Switch.verbose.word Switch.quiet.word)
  else .ok draft

/-- The path of the plan file. -/
def needPlan (draft : Draft) : Except Refusal String :=
  match draft.plan with
  | some path => .ok path
  | none => .error .planMissing

end Draft

/-- What was read so far in one place, and what is still to be looked at. -/
structure Reading where
  draft : Draft := {}
  /-- A parameter whose value is not there yet, or is there but not yet looked at. -/
  pending : Option (Parameter × Option String) := none
  /-- No options are looked for any more. -/
  plainOnly : Bool := false

namespace Reading

/-- The reading with its pending value looked at. -/
def settle (reading : Reading) : Except Refusal Reading :=
  match reading.pending with
  | none => .ok reading
  | some (parameter, none) => .error (.valueMissing parameter.word)
  | some (parameter, some value) => do
    return { reading with draft := ← reading.draft.give parameter value, pending := none }

/-- The reading with a switch. -/
def turnOn (reading : Reading) (scope : Scope) (switch : Switch) : Except Refusal Reading := do
  let reading ← reading.settle
  return { reading with draft := ← reading.draft.turnOn scope switch }

/-- The reading with switches by their letters. -/
def turnOnAll (scope : Scope) : List Char → Reading → Except Refusal Reading
  | [], reading => .ok reading
  | letter :: rest, reading =>
    match Switch.findLetter? scope letter with
    | none => .error (.unknown (String.ofList ['-', letter]))
    | some switch => do turnOnAll scope rest (← reading.turnOn scope switch)

/-- The reading with an option by its word. -/
def takeOption (scope : Scope) (name : String) (value : Option String) (reading : Reading) :
    Except Refusal Reading :=
  match Switch.find? scope name, Parameter.find? scope name, value with
  | some switch, _, none => reading.turnOn scope switch
  | some switch, _, some _ => .error (.valueNotTaken switch.word)
  | none, some parameter, none => do
    return { ← reading.settle with pending := some (parameter, none) }
  | none, some parameter, some value => do
    let reading ← reading.settle
    return { reading with draft := ← reading.draft.give parameter value }
  | none, none, _ => .error (.unknown ("--" ++ name))

/-- Whether the plan file was named. -/
def hasPlan (reading : Reading) : Bool :=
  reading.draft.plan.isSome || reading.pending.any fun pending => pending.1 = .plan

/-- The reading with a word that is no option; only the plan file is such a word. -/
def takePlain (text : String) (reading : Reading) : Except Refusal Reading :=
  if reading.hasPlan then .error (.unknown text)
  else do return { ← reading.settle with pending := some (.plan, some text) }

/-- **What a word behind a command adds.** -/
def take (scope : Scope) (reading : Reading) (text : String) : Except Refusal Reading :=
  if reading.plainOnly then reading.takePlain text
  else
    match Word.of text with
    | .separator => .ok { reading with plainOnly := true }
    | .option name value => reading.takeOption scope name value
    | .letters letters => reading.turnOnAll scope letters
    | .plain text =>
      match reading.pending with
      | some (parameter, none) => .ok { reading with pending := some (parameter, some text) }
      | _ => reading.takePlain text

/-- What all words behind a command say. -/
def takeAll (scope : Scope) (words : List String) : Except Refusal Draft := do
  let reading ← words.foldlM (take scope) {}
  return (← (← reading.settle).draft.settled)

end Reading

/-- What is to be done with a plan file. -/
inductive Command where
  | run (options : RunOptions)
  | validate (plan : String)
deriving DecidableEq

/-- What is to be done, and how much of it is logged. -/
structure Invocation where
  verbose : Bool
  quiet : Bool
  command : Command
deriving DecidableEq

/-- The options of a run. -/
def Draft.runOptions (draft : Draft) : Except Refusal RunOptions := do
  return {
    plan := ← draft.needPlan
    maxUsers := draft.maxUsers
    duration := draft.duration
    stages := draft.stages
    format := draft.format.getD .text
    summaryExport := draft.summaryExport
    noThresholds := draft.has .noThresholds
    baseUrl := draft.baseUrl }

namespace Invocation

/-- What help is asked for by words behind `help`: the command of at most one word. -/
def helpOn : List String → Refusal
  | [] => .help none
  | [word] =>
    match CommandName.ofWord? word with
    | some command => .help (some command)
    | none => .notACommand word
  | word :: next :: _ => .notACommand (if (CommandName.ofWord? word).isSome then next else word)

/-- What a command and the words behind it say. -/
def inner (outer : Draft) (command : CommandName) (words : List String) :
    Except Refusal Invocation := do
  let draft ←
    match command with
    | .help => throw (helpOn words)
    | _ => Reading.takeAll (some command) words
  let command ←
    match command with
    | .run => Command.run <$> draft.runOptions
    | _ => Command.validate <$> draft.needPlan
  let outer ← outer.settled
  return ⟨outer.has .verbose || draft.has .verbose, outer.has .quiet || draft.has .quiet, command⟩

/-- What words say of which some were read in front of any command. -/
def outer (reading : Reading) : List String → Except Refusal Invocation
  | [] => .error (if reading.draft.switches.isEmpty then .noWords else .commandMissing)
  | word :: rest =>
    match CommandName.ofWord? word, reading.plainOnly with
    | some command, false => inner reading.draft command rest
    | some _, true => .error (.unknown word)
    | none, true => .error (.notACommand word)
    | none, false =>
      match Word.of word with
      | .separator => outer { reading with plainOnly := true } rest
      | .option name value => do outer (← reading.takeOption none name value) rest
      | .letters letters => do outer (← reading.turnOnAll none letters) rest
      | .plain text => .error (.notACommand text)

/-- **What the words of the command line ask for.** -/
def parse (words : List String) : Except Refusal Invocation := outer {} words

end Invocation

end LoadTest
