import ZigbeeBridge.Bus.Attribute
import ZigbeeBridge.Gateway.Sensor
import ZigbeeBridge.Text.Ascii

/-!
Events on the bus: a kind, a direction and attributes in the order in which they were first set.
-/
namespace ZigbeeBridge.Bus

open Data

inductive EventKind where
  | light
  | group
  | sensor
  | sensorPower
  | sensorConsumption
  | sensorTemperature
  deriving DecidableEq, Repr

namespace EventKind

def name : EventKind → String
  | light => "deCONZ_Message"
  | group => "deCONZ_lightgroup"
  | sensor => "deCONZ_sensor_Message"
  | sensorPower => "deCONZ_sensor_Message_ZHAPower"
  | sensorConsumption => "deCONZ_sensor_Message_ZHAConsumption"
  | sensorTemperature => "deCONZ_sensor_Message_ZHATemperature"

def all : List EventKind :=
  [light, group, sensor, sensorPower, sensorConsumption, sensorTemperature]

def ofName? (name : String) : Option EventKind := all.find? (·.name = name)

def ofSensor : Gateway.SensorType → EventKind
  | .switch => sensor
  | .power => sensorPower
  | .consumption => sensorConsumption
  | .temperature => sensorTemperature

/-- The kind for a collection of resources; an unknown one counts as lights. -/
def ofResource (resource : String) : EventKind :=
  if Text.sameLettersAs "sensors" resource then sensor
  else if Text.sameLettersAs "groups" resource then group
  else light

end EventKind

/-- An inbound event reports, an outbound one commands. -/
inductive Direction where
  | inbound
  | outbound
  deriving DecidableEq, Repr

namespace Direction

def name : Direction → String
  | inbound => "In"
  | outbound => "Out"

def all : List Direction := [inbound, outbound]

def ofName? (name : String) : Option Direction := all.find? (·.name = name)

end Direction

structure Event where
  kind : EventKind
  direction : Direction
  attributes : Entries Attribute
  deriving DecidableEq, Repr

namespace Event

def set (event : Event) (key : String) (value : Attribute) : Event :=
  { event with attributes := event.attributes.put key value }

def setAll (event : Event) (pairs : List (String × Attribute)) : Event :=
  pairs.foldl (fun event pair => event.set pair.1 pair.2) event

/-- An event that reports on one device. -/
def inbound (kind : EventKind) (id : String) : Event :=
  ⟨kind, .inbound, [(Attribute.id, .text id)]⟩

/-- An event that commands one device. -/
def outbound (kind : EventKind) (id : String) : Event :=
  ⟨kind, .outbound, [(Attribute.id, .text id)]⟩

def get? (event : Event) (key : String) : Option Attribute := event.attributes.get? key

def int? (event : Event) (key : String) : Option Int64 := (event.get? key).bind Attribute.int?

def text? (event : Event) (key : String) : Option String := (event.get? key).map Attribute.toText

def id? (event : Event) : Option String := event.text? Attribute.id

/-- The same kind, direction and attributes, whatever the order of these. -/
def same (a b : Event) : Bool :=
  a.kind == b.kind && a.direction == b.direction && a.attributes.length == b.attributes.length &&
    a.attributes.all fun pair => b.get? pair.1 == some pair.2

def value (event : Event) : Value :=
  .object [("type", .string event.kind.name), ("direction", .string event.direction.name),
    ("attributes", .object (event.attributes.map fun pair => (pair.1, pair.2.value)))]

end Event

end ZigbeeBridge.Bus
