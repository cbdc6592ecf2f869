/-
**The pages of help.**

A page says what a command is for, how it is called, and what its options mean. Options that fit
have their meaning beside them; where one does not, all meanings of the page stand below.

* `helpPage`: the page of a command or of the program;
* `Refusal.message`: what is said if nothing is to be done.
-/

import LoadTest.Command.Line
import LoadTest.Text.Column

namespace LoadTest

open Text

/-- The name of the program. -/
def programName : String := "volley"

/-- The name of the program and its version. -/
def versionLine : String := programName ++ " 0.1.0"

/-- A line of help: how something is written, and what it means. -/
structure HelpRow where
  form : String
  meaning : String

namespace HelpRow

/-- The row, with the meaning beside the form. -/
def beside (width : Nat) (row : HelpRow) : String :=
  "  " ++ fillEnd width row.form ++ "  " ++ row.meaning ++ "\n"

/-- The row, with the meaning below the form. -/
def below (row : HelpRow) : String := "  " ++ row.form ++ "\n          " ++ row.meaning ++ "\n"

/-- How wide the widest form is. -/
def widest (rows : List HelpRow) : Nat := (rows.map fun row => row.form.length).foldl max 0

/-- Rows with their meanings beside them. -/
def table (rows : List HelpRow) : String :=
  String.join (rows.map (beside (widest rows)))

end HelpRow

/-- The row of a switch. -/
def Switch.helpRow (switch : Switch) : HelpRow where
  form := (match switch.letter? with
    | some letter => String.ofList ['-', letter] ++ ", "
    | none => "    ") ++ "--" ++ switch.word
  meaning := match switch with
    | .verbose => "Debug logging for the engine"
    | .quiet => "Only log warnings and errors"
    | .noThresholds => "Skip threshold evaluation; the run passes unless interrupted"
    | .help => "Print help"
    | .version => "Print version"

/-- The row of a parameter, whose value has a name. -/
def Parameter.helpRow (parameter : Parameter) (value : String) : HelpRow where
  form := "    --" ++ parameter.word ++ " <" ++ value ++ ">"
  meaning := match parameter with
    | .plan => ""
    | .maxUsers => "Override the plan's VU cap"
    | .duration => "Stop the run after this long even if stages remain (`90s`, `2m`)"
    | .stage => "Replace the plan's stages, written `DURATION:TARGET` (`30s:50`). Repeatable"
    | .format => "[default: text] [possible values: text, json]"
    | .summaryExport => "Write the machine-readable summary to this file"
    | .baseUrl => "Override the plan's base URL"

/-- What a command is for. -/
def CommandName.purpose : CommandName → String
  | run => "Execute a plan file and report the verdict through the exit code"
  | validate => "Parse and validate a plan file, then print its schedule"
  | help => "Print this message or the help of the given subcommand(s)"

/-- The options of a run. -/
def runRows : List HelpRow :=
  [Parameter.maxUsers.helpRow "MAX_VUS", Switch.verbose.helpRow,
    Parameter.duration.helpRow "DURATION", Switch.quiet.helpRow,
    Parameter.stage.helpRow "STAGES", Parameter.format.helpRow "FORMAT",
    Parameter.summaryExport.helpRow "SUMMARY_EXPORT", Switch.noThresholds.helpRow,
    Parameter.baseUrl.helpRow "BASE_URL", Switch.help.helpRow]

/-- The page of a command with a plan file. -/
def commandPage (command : CommandName) (options : String) : String :=
  command.purpose ++ "\n\nUsage: " ++ programName ++ " " ++ command.word ++
    " [OPTIONS] <PLAN>\n\nArguments:\n" ++ HelpRow.table [⟨"<PLAN>", ""⟩] ++ "\nOptions:\n" ++
    options

/-- **The page of a command, or of the program.** -/
def helpPage : Scope → String
  | none =>
    "Stage-driven HTTP load testing\n\nUsage: " ++ programName ++
      " [OPTIONS] <COMMAND>\n\nCommands:\n" ++
      HelpRow.table ([.run, .validate, .help].map fun command : CommandName =>
        ⟨command.word, command.purpose⟩) ++
      "\nOptions:\n" ++
      HelpRow.table ([.verbose, .quiet, .help, .version].map Switch.helpRow)
  | some .run => commandPage .run (String.join (runRows.map HelpRow.below))
  | some .validate =>
    commandPage .validate (HelpRow.table ([.verbose, .quiet, .help].map Switch.helpRow))
  | some .help =>
    CommandName.help.purpose ++ "\n\nUsage: " ++ programName ++
      " help [COMMAND]...\n\nArguments:\n" ++
      HelpRow.table [⟨"[COMMAND]...", "Print help for the subcommand(s)"⟩]

/-- What is said about a command line that asks for nothing. -/
def Refusal.message : Refusal → String
  | help scope => helpPage scope
  | version => versionLine ++ "\n"
  | noWords => helpPage none
  | unknown word => "error: unexpected argument '" ++ word ++ "' found\n"
  | valueNotTaken option => "error: unexpected value for '--" ++ option ++ "' found\n"
  | valueMissing option => "error: a value is required for '" ++ option ++ "' but none was supplied\n"
  | notAChoice option value => "error: invalid value '" ++ value ++ "' for '--" ++ option ++ "'\n"
  | badValue option value reason =>
    "error: invalid value '" ++ value ++ "' for '--" ++ option ++ "': " ++ reason ++ "\n"
  | conflict option other =>
    if option = other then "error: the argument '--" ++ option ++ "' cannot be used multiple times\n"
    else "error: the argument '--" ++ option ++ "' cannot be used with '--" ++ other ++ "'\n"
  | planMissing => "error: the following required arguments were not provided:\n  <PLAN>\n"
  | commandMissing => "error: '" ++ programName ++ "' requires a subcommand but one was not provided\n"
  | notACommand word => "error: unrecognized subcommand '" ++ word ++ "'\n"

end LoadTest
