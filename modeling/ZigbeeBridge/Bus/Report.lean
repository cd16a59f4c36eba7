import ZigbeeBridge.Bus.Event
import ZigbeeBridge.Gateway.Group
import ZigbeeBridge.Gateway.Light

/-!
The events that report lights, groups and sensors.
-/
namespace ZigbeeBridge.Bus

open Gateway

def commandText (on : Bool) : String := if on then "On" else "Off"

def colorAttributes : ColorMode → List (String × Attribute)
  | .none => []
  | .hueSat hue saturation =>
    [(Attribute.hue, .uint16 hue), (Attribute.saturation, .uint8 saturation)]
  | .temperature mired => [(Attribute.temperature, .uint16 mired)]

def ofLight (light : Light) : Event :=
  (Event.inbound .light light.id).setAll
    ([(Attribute.command, .text (commandText light.state.on)),
      (Attribute.brightness, .uint8 light.state.brightness),
      (Attribute.name, .text light.name),
      (Attribute.model, .text light.model),
      (Attribute.type, .text light.type),
      (Attribute.version, .text light.version)] ++ colorAttributes light.state.color)

/-- A group is on when all of its lights are. -/
def ofGroup (group : Group) : Event :=
  (Event.inbound .group group.id).setAll
    [(Attribute.command, .text (commandText group.state.allOn)),
     (Attribute.name, .text group.name),
     (Attribute.type, .text group.type)]

/-- A switch is reported without its version, which only a detail would tell. -/
def readingAttributes (version : String) : Reading → List (String × Attribute)
  | .switch => []
  | .power r =>
    [(Attribute.version, .text version), (Attribute.current, .int r.current),
     (Attribute.power, .int r.power), (Attribute.voltage, .int r.voltage),
     (Attribute.lastUpdated, .text r.lastUpdated)]
  | .consumption r =>
    [(Attribute.version, .text version), (Attribute.consumption, .int r.consumption),
     (Attribute.lastUpdated, .text r.lastUpdated)]
  | .temperature r =>
    [(Attribute.version, .text version), (Attribute.sensorTemperature, .int r.centi),
     (Attribute.lastUpdated, .text r.lastUpdated)]

def ofSensor (sensor : Sensor) : Event :=
  (Event.inbound (.ofSensor sensor.reading.sensorType) sensor.info.id).setAll
    ([(Attribute.name, .text sensor.info.name),
      (Attribute.model, .text sensor.info.model),
      (Attribute.type, .text sensor.info.type),
      (Attribute.manufacturer, .text sensor.info.manufacturer)] ++
      readingAttributes sensor.info.version sensor.reading)

end ZigbeeBridge.Bus
