/-
**The program.**

The world is that of the system: its files, its environment and its clock. A run keeps pace with
the clock. No network stands behind it, so every request is lost after a millisecond.

* `follow`: a run that keeps pace with the clock;
* `main`: the program.
-/

import LoadTest.Command.Program
import LoadTest.Run.Timeline

namespace LoadTest

open Decimal

/-- What becomes of a request without a network. -/
def unanswered (_ : Outgoing) : Reply := .lost (.ofMillis 1)

/-- **A run that keeps pace with the clock**, which showed `begun` at its start. -/
partial def follow (setup : Setup) (begun : Nat) (timeline : Timeline) (now : Duration)
    (run : Run) : IO Run := do
  match timeline.next? setup unanswered run now with
  | none => return run
  | some due =>
    let passed := (← IO.monoNanosNow) - begun
    if passed < due.time.nanos then
      IO.sleep (UInt32.ofNat ((due.time.nanos - passed + 999999) / 1000000))
    follow setup begun due.rest due.time (run.step setup due.time due.happening)

/-- A line of the log. -/
def logLine (level : Level) (message : String) : String :=
  (match level with
  | .info => " INFO "
  | .warn => " WARN "
  | .error => "ERROR ") ++ message

/-- A run from its start to its end. -/
def play (setup : Setup) (deadline : Option Duration) : IO Run := do
  follow setup (← IO.monoNanosNow) { Timeline.ofPlan setup.plan with deadline } .zero
    (Run.start setup)

/-- The wording of what went wrong with a file. -/
def fileFault : IO.Error → String
  | .noFileOrDirectory .. => "No such file or directory (os error 2)"
  | .permissionDenied .. => "Permission denied (os error 13)"
  | fault => toString fault

/-- An outcome, or the words of what went wrong. -/
def attempt {β : Type} (action : IO β) : IO (Except String β) := do
  match ← action.toBaseIO with
  | .ok value => return .ok value
  | .error fault => return .error (fileFault fault)

/-- The variables of the environment, which the system keeps apart by zeros. -/
def environmentOf (bytes : ByteArray) : Environment :=
  let entries := (Text.Utf8.decodeLossy bytes.toList).splitOn "\x00"
  let pairs := entries.filterMap fun entry =>
    (Text.splitFirst '=' entry.toList).map fun (name, value) =>
      (String.ofList name, String.ofList value)
  (Table.ofList pairs).get?

/-- The world of the system. Draws differ from one start of the program to the next. -/
def systemWorld : IO (World IO) := do
  let bytes ← attempt (IO.FS.readBinFile "/proc/self/environ")
  let seed ← IO.monoNanosNow
  return {
    environment := environmentOf (bytes.toOption.getD .empty)
    draws := fun id iteration place => (hash (seed, id, iteration, place)).toNat
    read := fun path => attempt (IO.FS.readFile path)
    write := fun path text => attempt (IO.FS.writeFile path text)
    play
    print := fun text => IO.print text
    remark := fun text => IO.eprint text
    log := fun level message => IO.eprintln (logLine level message) }

end LoadTest

/-- **The program.** -/
def main (words : List String) : IO UInt32 := do
  return UInt32.ofNat (← LoadTest.Program.execute (← LoadTest.systemWorld) words)
