import ZigbeeBridge.Data.Value
import ZigbeeBridge.Text.Blank
import ZigbeeBridge.Text.Integer

/-!
Attributes of an event: their names and their values.
-/
namespace ZigbeeBridge.Bus

inductive Attribute where
  | text (value : String)
  | int (value : Int64)
  | bool (value : Bool)
  deriving DecidableEq, Repr

namespace Attribute

def uint8 (n : UInt8) : Attribute := .int (.ofNat n.toNat)

def uint16 (n : UInt16) : Attribute := .int (.ofNat n.toNat)

/-- The value as an integer; blanks around a text do not count. -/
def int? : Attribute → Option Int64
  | text s => Text.int64? (Text.trim s)
  | int n => some n
  | bool _ => none

def text? : Attribute → Option String
  | text s => some s
  | _ => none

/-- The value as a text, whatever it is. -/
def toText : Attribute → String
  | text s => s
  | int n => toString n
  | bool b => if b then "true" else "false"

def value : Attribute → Data.Value
  | text s => .string s
  | int n => .int64 n
  | bool b => .bool b

/-- What every name of an attribute begins with. -/
def nameStart : String := "deCONZ."

def id : String := "deCONZ.Id"

def command : String := "deCONZ.Command"

def brightness : String := "deCONZ.Brightness"

def name : String := "deCONZ.Name"

def model : String := "deCONZ.Model"

def type : String := "deCONZ.Type"

def version : String := "deCONZ.Version"

def hue : String := "deCONZ.Hue"

def saturation : String := "deCONZ.Saturation"

def temperature : String := "deCONZ.Temperature"

def manufacturer : String := "deCONZ.Manufacturername"

def current : String := "deCONZ.current"

def power : String := "deCONZ.power"

def voltage : String := "deCONZ.voltage"

def consumption : String := "deCONZ.consumption"

def sensorTemperature : String := "deCONZ.temperature"

def lastUpdated : String := "deCONZ.lastupdated"

end Attribute

end ZigbeeBridge.Bus
