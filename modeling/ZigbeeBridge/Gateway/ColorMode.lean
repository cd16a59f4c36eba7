import ZigbeeBridge.Data.Decode

/-!
The color of a light: none of its own, hue and saturation, or a color temperature in mired. As a
document it is a record whose field `mode` names which.
-/
namespace ZigbeeBridge.Gateway

open Data

inductive ColorMode where
  | none
  | hueSat (hue : UInt16) (saturation : UInt8)
  | temperature (mired : UInt16)
  deriving DecidableEq, Repr, Inhabited

namespace ColorMode

def modes : List String := ["none", "hue_sat", "color_temperature"]

def hueSatShape : Shape :=
  ⟨"variant ColorMode::HueSat", [.required "hue" .uint16, .required "saturation" .uint8]⟩

def temperatureShape : Shape :=
  ⟨"variant ColorMode::ColorTemperature", [.required "mired" .uint16]⟩

/-- Items that are left over count against what the variant holds. -/
def readVariant (shape : Shape) (v : Value) : Except DecodeError (Entries Value) :=
  (shape.read v).mapError fun e =>
    match e with
    | .tooMany n _ => .tooMany n (some shape.fields.length)
    | e => e

/-- A color of the named mode; the rest of the record holds its fields. -/
def ofMode (mode : Value) (rest : Value) : Except DecodeError ColorMode :=
  match mode with
  | .string "none" => .ok .none
  | .string "hue_sat" => do
    let ms ← readVariant hueSatShape rest
    .ok (.hueSat ((ms.uint16? "hue").getD 0) ((ms.uint8? "saturation").getD 0))
  | .string "color_temperature" => do
    let ms ← readVariant temperatureShape rest
    .ok (.temperature ((ms.uint16? "mired").getD 0))
  | .string name => .error (.unknownVariant name modes)
  | v => .error (.wrongType (.of v) "variant identifier")

def decode : Value → Except DecodeError ColorMode
  | .object members =>
    match Entries.get? members "mode" with
    | some mode => ofMode mode (.object members)
    | Option.none => .error (.missingField "mode")
  | .array (mode :: rest) => ofMode mode (.array rest)
  | .array [] => .error (.missingField "mode")
  | v => .error (.wrongType (.of v) "internally tagged enum ColorMode")

def value : ColorMode → Value
  | none => .object [("mode", .string "none")]
  | hueSat hue saturation =>
    .object [("mode", .string "hue_sat"), ("hue", .uint16 hue), ("saturation", .uint8 saturation)]
  | temperature mired =>
    .object [("mode", .string "color_temperature"), ("mired", .uint16 mired)]

end ColorMode

end ZigbeeBridge.Gateway
