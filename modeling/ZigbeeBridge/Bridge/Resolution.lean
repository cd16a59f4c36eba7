import ZigbeeBridge.Gateway.Sensor

/-!
What it takes to report a sensor that is listed.
-/
namespace ZigbeeBridge.Bridge

open Gateway

inductive Resolution where
  | skip
  | fromListing
  | fetch (type : SensorType)
  deriving DecidableEq, Repr

def Resolution.of (info : SensorInfo) : Resolution :=
  match info.sensorType? with
  | none => .skip
  | some .switch => .fromListing
  | some type => .fetch type

end ZigbeeBridge.Bridge
