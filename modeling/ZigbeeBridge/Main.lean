import Std.Internal.UV.System
import ZigbeeBridge.Cli.Program
import ZigbeeBridge.Config.Path
import ZigbeeBridge.Live.Duty

/-!
The command line: takes the program's arguments and surroundings, and does what there is to do.
-/
namespace ZigbeeBridge

open Data Std.Async

def readFile? (path : String) : IO (Option String) := do
  try some <$> IO.FS.readFile path
  catch
    | .noFileOrDirectory .. => pure none
    | e => throw e

def surroundings : IO Cli.Surroundings := do
  let environment : Entries String := (← Std.Internal.UV.System.osEnviron).toList
  let path := configPath environment
  let directory ← Std.Internal.UV.System.cwd
  pure ⟨environment, ← readFile? path, shownPath directory path⟩

/-- Prints an outcome, an error apart from the rest; its exit code. -/
def conclude (outcome : Cli.Outcome) : IO UInt32 := do
  IO.print outcome.output
  if let some e := outcome.error then IO.eprint e.diagnostic
  pure outcome.exitCode.toUInt32

/-- Carries an errand out; nobody listens to the events meanwhile. -/
def carryOut (settings : Bridge.Settings) (work : Dialogue Cli.Outcome) : Async Cli.Outcome :=
  work.perform (Live.send settings.timeoutMs) (fun _ => pure ()) Live.pausing

end ZigbeeBridge

open ZigbeeBridge in
def main (args : List String) : IO UInt32 := do
  match Cli.program (← surroundings) args with
  | .refused =>
    IO.eprint Cli.refusal
    pure 2
  | .settled outcome => conclude outcome
  | .errand settings work => conclude (← (carryOut settings work).block)
  | .watch watch =>
    (Live.watch watch).block
    pure 0
