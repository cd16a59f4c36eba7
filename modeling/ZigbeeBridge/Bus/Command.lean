import ZigbeeBridge.Bus.Event
import ZigbeeBridge.Gateway.StateChange

/-!
Commands for a light or a group, as outbound events give them.
-/
namespace ZigbeeBridge.Bus

open Gateway

inductive Target where
  | light
  | group
  deriving DecidableEq, Repr

structure Command where
  target : Target
  id : String
  change : StateChange
  deriving DecidableEq, Repr

def clampUInt8 (n : Int64) : UInt8 := UInt8.ofNat (max 0 (min n.toInt 255)).toNat

def clampUInt16 (n : Int64) : UInt16 := UInt16.ofNat (max 0 (min n.toInt 65535)).toNat

namespace Command

def brightness (event : Event) : Option UInt8 :=
  (event.int? Attribute.brightness).map clampUInt8

/-- A temperature goes before hue and saturation, and those need a saturation above zero. -/
def color (event : Event) : ColorMode :=
  let temperature := (event.int? Attribute.temperature).getD 0
  let saturation := (event.int? Attribute.saturation).getD 0
  if temperature > 0 then .temperature (clampUInt16 temperature)
  else if saturation > 0 then
    .hueSat (clampUInt16 ((event.int? Attribute.hue).getD 0)) (clampUInt8 saturation)
  else .none

def target? : EventKind → Option Target
  | .light => some .light
  | .group => some .group
  | _ => none

def change? (event : Event) : Option StateChange :=
  match event.text? Attribute.command with
  | some "Off" => some .off
  | some "On" => some (.on (brightness event) (color event))
  | _ => none

/-- The command that an event stands for; none of an event that is no command. -/
def ofEvent? (event : Event) : Option Command := do
  if event.direction ≠ .outbound then none
  else
    let target ← target? event.kind
    let id ← event.id?.filter (· ≠ "")
    some ⟨target, id, ← change? event⟩

end Command

end ZigbeeBridge.Bus
