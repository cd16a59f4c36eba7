import ZigbeeBridge.Gateway.Fragment

/-!
Sensors. A listing tells what each one is; four types are recognized, and three of those have a
reading of their own in the detail.
-/
namespace ZigbeeBridge.Gateway

open Data

inductive SensorType where
  | switch
  | power
  | consumption
  | temperature
  deriving DecidableEq, Repr

structure SensorInfo where
  id : String
  name : String
  type : String
  model : String
  manufacturer : String
  version : String
  deriving DecidableEq, Repr

structure PowerReading where
  current : Int64
  power : Int64
  voltage : Int64
  lastUpdated : String
  deriving DecidableEq, Repr

structure ConsumptionReading where
  consumption : Int64
  lastUpdated : String
  deriving DecidableEq, Repr

/-- Hundredths of a degree Celsius. -/
structure TemperatureReading where
  centi : Int64
  lastUpdated : String
  deriving DecidableEq, Repr

inductive Reading where
  | switch
  | power (reading : PowerReading)
  | consumption (reading : ConsumptionReading)
  | temperature (reading : TemperatureReading)
  deriving DecidableEq, Repr

structure Sensor where
  info : SensorInfo
  reading : Reading
  deriving DecidableEq, Repr

namespace SensorType

def name : SensorType → String
  | switch => "ZGPSwitch"
  | power => "ZHAPower"
  | consumption => "ZHAConsumption"
  | temperature => "ZHATemperature"

def all : List SensorType := [switch, power, consumption, temperature]

def ofName? (name : String) : Option SensorType := all.find? (·.name = name)

end SensorType

namespace SensorInfo

def shape : Shape :=
  ⟨"RawSensorInfo",
    [.required "name" .text, .required "type" .text, .required "modelid" .text,
     .required "manufacturername" .text, .maybe "swversion" .text]⟩

def ofMembers (id : String) (ms : Entries Value) : SensorInfo :=
  { id, name := ms.text "name", type := ms.text "type", model := ms.text "modelid",
    manufacturer := ms.text "manufacturername", version := ms.text "swversion" }

def decode (id : String) (v : Value) : Except Error SensorInfo := do
  .ok (ofMembers id (← record shape v))

def sensorType? (info : SensorInfo) : Option SensorType := SensorType.ofName? info.type

def value (info : SensorInfo) : Value :=
  .object [("id", .string info.id), ("name", .string info.name),
    ("sensor_type", .string info.type), ("model_id", .string info.model),
    ("manufacturer", .string info.manufacturer), ("sw_version", .string info.version)]

end SensorInfo

namespace TemperatureReading

def celsius (r : TemperatureReading) : Numeral.Double :=
  .ofFloat (r.centi.toFloat / 100.0)

/-- Tenths of a degree without their sign; halves are rounded away from zero. -/
def tenths (r : TemperatureReading) : Int64 := (r.centi.abs + 5) / 10

def display (r : TemperatureReading) : String :=
  let sign := if r.centi < 0 ∧ r.tenths ≠ 0 then "-" else ""
  s!"{sign}{r.tenths / 10}.{r.tenths % 10}"

end TemperatureReading

namespace Reading

def sensorType : Reading → SensorType
  | switch => .switch
  | power _ => .power
  | consumption _ => .consumption
  | temperature _ => .temperature

def powerShape : Shape :=
  ⟨"PowerReading",
    [.required "current" .int64, .required "power" .int64, .required "voltage" .int64,
     .required "lastupdated" .text]⟩

def consumptionShape : Shape :=
  ⟨"ConsumptionReading", [.required "consumption" .int64, .required "lastupdated" .text]⟩

def temperatureShape : Shape :=
  ⟨"TemperatureReading", [.required "temperature" .int64, .required "lastupdated" .text]⟩

def stateShape : Shape := ⟨"RawSensorState", [.required "state" .any]⟩

/-- The reading of a sensor of a type, from its detail. -/
def decode (type : SensorType) (v : Value) : Except Error Reading :=
  match type with
  | .switch => .ok .switch
  | .power => do
    let ms ← record powerShape (← state v)
    .ok (.power ⟨ms.int64 "current", ms.int64 "power", ms.int64 "voltage", ms.text "lastupdated"⟩)
  | .consumption => do
    let ms ← record consumptionShape (← state v)
    .ok (.consumption ⟨ms.int64 "consumption", ms.text "lastupdated"⟩)
  | .temperature => do
    let ms ← record temperatureShape (← state v)
    .ok (.temperature ⟨ms.int64 "temperature", ms.text "lastupdated"⟩)
where
  state (v : Value) : Except Error Value := do .ok ((← record stateShape v).value "state")

def value : Reading → Value
  | switch => .object [("kind", .string "zgp_switch")]
  | power r =>
    .object [("kind", .string "zha_power"), ("current", .int64 r.current),
      ("power", .int64 r.power), ("voltage", .int64 r.voltage),
      ("lastupdated", .string r.lastUpdated)]
  | consumption r =>
    .object [("kind", .string "zha_consumption"), ("consumption", .int64 r.consumption),
      ("lastupdated", .string r.lastUpdated)]
  | temperature r =>
    .object [("kind", .string "zha_temperature"), ("temperature", .int64 r.centi),
      ("lastupdated", .string r.lastUpdated)]

end Reading

namespace Sensor

/-- The sensor of a detail; none of a type that is not recognized. -/
def decode (id : String) (v : Value) : Except Error (Option Sensor) := do
  let info ← SensorInfo.decode id v
  match info.sensorType? with
  | none => .ok none
  | some type => .ok (some ⟨info, ← Reading.decode type v⟩)

/-- The sensor whose entry in the listing tells all there is. -/
def ofInfo? (info : SensorInfo) : Option Sensor :=
  match info.sensorType? with
  | some .switch => some ⟨info, .switch⟩
  | _ => none

def value (sensor : Sensor) : Value :=
  .object [("info", sensor.info.value), ("kind", sensor.reading.value)]

end Sensor

end ZigbeeBridge.Gateway
