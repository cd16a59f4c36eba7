import ZigbeeBridge.Cli.Order
import ZigbeeBridge.Data.Entries

/-!
The commands of the program and what each of them takes. A command may have commands below it; the
options of the first one go with all of them.
-/
namespace ZigbeeBridge.Cli

/-- What the arguments say so far. -/
structure Draft where
  profile : Option String := none
  address : Option String := none
  token : Option String := none
  timeout : Option UInt64 := none
  insecure : Bool := false
  format : Format := .table
  quiet : Bool := false
  heartbeatSeconds : UInt64 := 1
  refreshInterval : Option UInt32 := none
  initialReport : Bool := true
  sensors : Bool := true
  brightness : Option Int64 := none
  temperature : Option Int64 := none
  hue : Option Int64 := none
  saturation : Option Int64 := none
  id : String := ""
  on : Bool := true
  shell : Shell := .bash

/-- What an option does. A value that does not fit is refused. -/
inductive Effect where
  | help
  | version
  /-- More of it for the log; the only kind that may come more than once. -/
  | verbose
  | mark (set : Draft → Draft)
  | value (set : String → Draft → Option Draft)

structure Flag where
  long : String
  letter : Option Char
  effect : Effect

def uint64? (s : String) : Option UInt64 := (Text.natBelow? 0x10000000000000000 s).map UInt64.ofNat

/-- A count of 32 bits, read as a signed number. -/
def uint32? (s : String) : Option UInt32 :=
  ((Text.int64? s).filter fun n => 0 ≤ n.toInt ∧ n.toInt < 0x100000000).map fun n =>
    UInt32.ofNat n.toInt.toNat

namespace Flag

def text (set : Option String → Draft → Draft) : Effect := .value fun s d => some (set (some s) d)

def read {α : Type} (parse : String → Option α) (set : α → Draft → Draft) : Effect :=
  .value fun s d => (parse s).map (set · d)

def common : List Flag :=
  [⟨"profile", 'p', text fun v d => { d with profile := v }⟩,
   ⟨"address", 'a', text fun v d => { d with address := v }⟩,
   ⟨"token", none, text fun v d => { d with token := v }⟩,
   ⟨"output", 'o', read Format.ofName? fun v d => { d with format := v }⟩,
   ⟨"verbose", 'v', .verbose⟩,
   ⟨"quiet", 'q', .mark fun d => { d with quiet := true }⟩,
   ⟨"insecure", 'k', .mark fun d => { d with insecure := true }⟩,
   ⟨"timeout", none, read uint64? fun v d => { d with timeout := some v }⟩,
   ⟨"help", 'h', .help⟩,
   ⟨"version", 'V', .version⟩]

def ofWatch : List Flag :=
  [⟨"heartbeat-secs", none,
      read (fun s => (uint64? s).filter (· ≠ 0)) fun v d => { d with heartbeatSeconds := v }⟩,
   ⟨"refresh-interval", none, read uint32? fun v d => { d with refreshInterval := some v }⟩,
   ⟨"no-initial-report", none, .mark fun d => { d with initialReport := false }⟩]

def ofReport : List Flag :=
  [⟨"no-sensors", none, .mark fun d => { d with sensors := false }⟩]

def ofSwitch : List Flag :=
  [⟨"bri", 'b', read Text.int64? fun v d => { d with brightness := some v }⟩,
   ⟨"ct", none, read Text.int64? fun v d => { d with temperature := some v }⟩,
   ⟨"hue", none, read Text.int64? fun v d => { d with hue := some v }⟩,
   ⟨"sat", none, read Text.int64? fun v d => { d with saturation := some v }⟩]

end Flag

inductive Level where
  | program
  | watch
  | probe
  | report
  | light
  | group
  | config
  | configPath
  | configShow
  | completions
  | help
  deriving DecidableEq, Repr

namespace Level

/-- The name by which a command tells its version. -/
def name : Level → String
  | program => "deconz-bridge"
  | watch => "deconz-bridge-run"
  | probe => "deconz-bridge-probe"
  | report => "deconz-bridge-report"
  | light => "deconz-bridge-light"
  | group => "deconz-bridge-group"
  | config => "deconz-bridge-config"
  | configPath => "deconz-bridge-config-path"
  | configShow => "deconz-bridge-config-show"
  | completions => "deconz-bridge-completions"
  | help => "deconz-bridge-help"

/-- The commands below a command, by name. -/
def children : Level → Data.Entries Level
  | program =>
    [("run", watch), ("probe", probe), ("report", report), ("light", light), ("l", light),
      ("group", group), ("g", group), ("config", config), ("completions", completions),
      ("help", help)]
  | config => [("path", configPath), ("show", configShow), ("help", help)]
  | _ => []

def flags : Level → List Flag
  | watch => Flag.ofWatch ++ Flag.common
  | report => Flag.ofReport ++ Flag.common
  | light | group => Flag.ofSwitch ++ Flag.common
  | _ => Flag.common

def onOff? : String → Option Bool
  | "on" => some true
  | "off" => some false
  | _ => none

/-- What the words of a command that are no options stand for, in order. -/
def words : Level → List (String → Draft → Option Draft)
  | light | group =>
    [fun s d => some { d with id := s }, fun s d => (onOff? s).map fun on => { d with on }]
  | completions => [fun s d => (Shell.ofName? s).map fun shell => { d with shell }]
  | _ => []

def switchOrder (kind : Bus.EventKind) (d : Draft) : SwitchOrder :=
  ⟨kind, d.id, d.on, d.brightness, d.temperature, d.hue, d.saturation⟩

/-- What a command orders; some are only there for the commands below them. -/
def order? (d : Draft) : Level → Option Order
  | watch => some (.watch ⟨d.heartbeatSeconds, d.refreshInterval, d.initialReport⟩)
  | probe => some .probe
  | report => some (.report d.sensors)
  | light => some (.switch (switchOrder .light d))
  | group => some (.switch (switchOrder .group d))
  | configPath => some .configPath
  | configShow => some .configShow
  | completions => some (.completions d.shell)
  | program | config | help => none

end Level

end ZigbeeBridge.Cli
