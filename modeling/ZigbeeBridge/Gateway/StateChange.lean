import ZigbeeBridge.Gateway.ColorMode
import ZigbeeBridge.Json.Printer

/-!
What a command asks of a light or a group. A change that turns off carries nothing else; one that
turns on may set the brightness and one of the two kinds of color.
-/
namespace ZigbeeBridge.Gateway

open Data

inductive StateChange where
  | off
  | on (brightness : Option UInt8) (color : ColorMode)
  deriving DecidableEq, Repr

namespace StateChange

def isOn : StateChange → Bool
  | off => false
  | on _ _ => true

def brightness : StateChange → Option UInt8
  | off => none
  | on b _ => b

def color : StateChange → ColorMode
  | off => .none
  | on _ c => c

def colorMembers : ColorMode → List (String × Value)
  | .none => []
  | .temperature mired => [("ct", .uint16 mired)]
  | .hueSat hue saturation => [("hue", .uint16 hue), ("sat", .uint8 saturation)]

def value : StateChange → Value
  | off => .object [("on", .bool false)]
  | on b c =>
    .object (("on", .bool true) :: ((b.map fun b => ("bri", Value.uint8 b)).toList ++
      colorMembers c))

/-- The text of the change as it is sent. -/
def body (change : StateChange) : String := Json.compact change.value

end StateChange

end ZigbeeBridge.Gateway
