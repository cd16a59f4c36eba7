import ZigbeeBridge.Gateway.ColorMode
import ZigbeeBridge.Gateway.Fragment

/-!
A light as a gateway describes it. One that is out of reach counts as off, whatever it was told
last.
-/
namespace ZigbeeBridge.Gateway

open Data

structure LightState where
  on : Bool
  brightness : UInt8
  color : ColorMode
  deriving DecidableEq, Repr

structure Light where
  id : String
  name : String
  model : String
  type : String
  version : String
  state : LightState
  deriving DecidableEq, Repr

namespace LightState

def shape : Shape :=
  ⟨"RawLightState",
    [.required "on" .bool, .maybe "reachable" .bool, .maybe "bri" .uint8, .maybe "hue" .uint16,
     .maybe "sat" .uint8, .maybe "ct" .uint16, .maybe "colormode" .text]⟩

/-- The brightness of a light that does not tell it. -/
def usualBrightness (on : Bool) : UInt8 := if on then 100 else 0

/-- A temperature counts where the mode says so; hue and saturation count together. -/
def colorOf (mode : Option String) (mired hue : Option UInt16) (saturation : Option UInt8) :
    ColorMode :=
  match mode, mired, hue, saturation with
  | some "ct", some mired, _, _ => .temperature mired
  | _, _, some hue, some saturation => .hueSat hue saturation
  | _, _, _, _ => .none

def ofMembers (ms : Entries Value) : LightState :=
  let on := (ms.bool? "on").getD false && (ms.bool? "reachable").getD true
  { on
    brightness := (ms.uint8? "bri").getD (usualBrightness on)
    color := colorOf (ms.text? "colormode") (ms.uint16? "ct") (ms.uint16? "hue") (ms.uint8? "sat") }

def decode (v : Value) : Except Error LightState := do
  .ok (ofMembers (← record shape v))

def value (s : LightState) : Value :=
  .object [("on", .bool s.on), ("brightness", .uint8 s.brightness), ("color", s.color.value)]

end LightState

namespace Light

def shape : Shape :=
  ⟨"RawLight",
    [.maybe "name" .text, .maybe "modelid" .text, .maybe "type" .text, .maybe "swversion" .text,
     .required "state" .any]⟩

def decode (id : String) (v : Value) : Except Error Light := do
  let ms ← record shape v
  let state ← LightState.decode (ms.value "state")
  .ok { id, name := ms.text "name", model := ms.text "modelid", type := ms.text "type",
        version := ms.text "swversion", state }

def value (light : Light) : Value :=
  .object [("id", .string light.id), ("name", .string light.name),
    ("model_id", .string light.model), ("device_type", .string light.type),
    ("sw_version", .string light.version), ("state", light.state.value)]

end Light

end ZigbeeBridge.Gateway
