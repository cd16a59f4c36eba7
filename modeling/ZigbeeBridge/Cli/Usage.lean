import ZigbeeBridge.Cli.Level

/-!
Help for the commands, and the scripts by which a shell completes their names. Wording and layout
are this program's own and follow no specification: they are only printed, no other function looks
at them, and no theorem is about them.
-/
namespace ZigbeeBridge.Cli

namespace Flag

def usage (flag : Flag) : String :=
  let letter := (flag.letter.map fun c => s!"-{c}, ").getD ""
  let value := match flag.effect with
    | .value _ => " <value>"
    | _ => ""
  s!"{letter}--{flag.long}{value}"

end Flag

namespace Level

def about : Level → String
  | program => "Bridge a deCONZ Zigbee gateway onto an event stream"
  | watch => "Connect and print inbound events as JSON lines until interrupted"
  | probe => "Check that the gateway answers with the configured token"
  | report => "Fetch and print every light, group and sensor once"
  | light => "Switch a light: <id> on|off"
  | group => "Switch a light group: <id> on|off"
  | config => "Inspect the configuration"
  | configPath => "Print the place of the configuration file"
  | configShow => "Print the effective configuration without tokens"
  | completions => "Print completions for a shell"
  | help => "Print help for a command"

def usageLines (level : Level) : List String :=
  let commands := level.children.map fun child => s!"  {child.1}: {child.2.about}"
  let options := level.flags.map fun flag => "  " ++ flag.usage
  [level.about, ""] ++ (if commands.isEmpty then [] else "Commands:" :: commands ++ [""]) ++
    "Options:" :: options

def usage (level : Level) : String := String.join (level.usageLines.map (· ++ "\n"))

end Level

/-- What is said of arguments that make no sense. -/
def refusal : String := "error: the arguments make no sense; --help tells which do\n"

/-- The names of the commands, for completion. -/
def commandNames : String := " ".intercalate (Level.program.children.map (·.1))

def Shell.script : Shell → String
  | bash => s!"complete -W '{commandNames}' deconz-bridge\n"
  | elvish =>
    s!"set edit:completion:arg-completer[deconz-bridge] = \x7b|@a| put {commandNames} \x7d\n"
  | fish => s!"complete -c deconz-bridge -f -a '{commandNames}'\n"
  | powershell =>
    let names := ", ".intercalate (Level.program.children.map fun child => s!"'{child.1}'")
    "Register-ArgumentCompleter -Native -CommandName deconz-bridge " ++
      s!"-ScriptBlock \x7b {names} \x7d\n"
  | zsh => s!"#compdef deconz-bridge\n_arguments '1:command:({commandNames})'\n"

end ZigbeeBridge.Cli
