import ZigbeeBridge.Bus.Event

/-!
What a command line orders: one thing to do, and the options that go with anything.
-/
namespace ZigbeeBridge.Cli

inductive Format where
  | table
  | json
  | jsonCompact
  | yaml
  deriving DecidableEq, Repr

namespace Format

def name : Format → String
  | table => "table"
  | json => "json"
  | jsonCompact => "json-compact"
  | yaml => "yaml"

def all : List Format := [table, json, jsonCompact, yaml]

def ofName? (name : String) : Option Format := all.find? (·.name = name)

end Format

inductive Shell where
  | bash
  | elvish
  | fish
  | powershell
  | zsh
  deriving DecidableEq, Repr

namespace Shell

def name : Shell → String
  | bash => "bash"
  | elvish => "elvish"
  | fish => "fish"
  | powershell => "powershell"
  | zsh => "zsh"

def all : List Shell := [bash, elvish, fish, powershell, zsh]

def ofName? (name : String) : Option Shell := all.find? (·.name = name)

end Shell

/-- Options that go before the configuration, and those about the output. -/
structure Options where
  profile : Option String
  address : Option String
  token : Option String
  timeout : Option UInt64
  insecure : Bool
  format : Format
  quiet : Bool
  deriving DecidableEq, Repr

/-- A light or a group to be switched; the values are as the user gave them. -/
structure SwitchOrder where
  kind : Bus.EventKind
  id : String
  on : Bool
  brightness : Option Int64
  temperature : Option Int64
  hue : Option Int64
  saturation : Option Int64
  deriving DecidableEq, Repr

structure WatchOrder where
  heartbeatSeconds : UInt64
  refreshInterval : Option UInt32
  initialReport : Bool
  deriving DecidableEq, Repr

inductive Order where
  | watch (order : WatchOrder)
  | probe
  | report (sensors : Bool)
  | switch (order : SwitchOrder)
  | configPath
  | configShow
  | completions (shell : Shell)
  deriving DecidableEq, Repr

end ZigbeeBridge.Cli
