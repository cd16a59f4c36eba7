import ZigbeeBridge.Cli.Arguments
import ZigbeeBridge.Cli.Errand
import ZigbeeBridge.Cli.Resolve
import ZigbeeBridge.Cli.Usage
import ZigbeeBridge.Config.Load

/-!
The program: from its arguments and its surroundings to what there is to do.
-/
namespace ZigbeeBridge.Cli

open Data Bridge

/-- The environment and the configuration file, with the name that messages give it. -/
structure Surroundings where
  environment : Entries String
  file : Option String
  shownPath : String

/-- The arguments make no sense, or the outcome is there at once, or it takes a gateway. -/
inductive Task where
  | refused
  | settled (outcome : Outcome)
  | errand (settings : Settings) (work : Dialogue Outcome)
  | watch (watch : Watch)

def print (text : String) : Task := .settled ⟨text, none⟩

namespace Surroundings

def config (around : Surroundings) : Except Error Config :=
  (loadConfig around.shownPath around.file around.environment).mapError .ofConfig

/-- The configuration as it is shown; its table is the text of a file. -/
def shownConfig (around : Surroundings) (options : Options) : Except Error Outcome := do
  let shown := redacted (← around.config)
  match options.format with
  | .table =>
    .ok (.printed options (← shown.toml.mapError .unprintable))
  | _ => .ok (printValue options "" shown.value)

def settings (around : Surroundings) (options : Options) : Except Error (String × Settings) := do
  resolve options (← around.config) around.environment

end Surroundings

def settled (result : Except Error Outcome) : Task :=
  match result with
  | .ok outcome => .settled outcome
  | .error e => .settled (.failed e)

/-- A task with the settings of the profile in use. -/
def withSettings (around : Surroundings) (options : Options)
    (task : String → Settings → Task) : Task :=
  match around.settings options with
  | .ok (profile, settings) => task profile settings
  | .error e => .settled (.failed e)

def task (around : Surroundings) (options : Options) : Order → Task
  | .configPath => .settled (.printed options (configPath around.environment))
  | .configShow => settled (around.shownConfig options)
  | .completions shell => print shell.script
  | .probe => withSettings around options fun _ settings =>
    .errand settings (probeErrand options settings)
  | .report sensors => withSettings around options fun profile settings =>
    .errand settings (reportErrand options profile settings sensors)
  | .switch order => withSettings around options fun _ settings =>
    .errand settings (switchErrand options settings order)
  | .watch order => withSettings around options fun _ settings =>
    .watch ⟨options, settings, order⟩

/-- What there is to do for the arguments. -/
def program (around : Surroundings) (args : List String) : Task :=
  match readArguments around.environment args with
  | .order options order => task around options order
  | .help level => print level.usage
  | .version level => print (level.name ++ " 0.1.0\n")
  | .refused => .refused

end ZigbeeBridge.Cli
