import ZigbeeBridge.Gateway.Sensor

/-!
Listings: objects whose keys are the ids, in the order of the gateway.
-/
namespace ZigbeeBridge.Gateway

open Data

structure Summary where
  id : String
  name : String
  deriving DecidableEq, Repr

namespace Summary

def shape : Shape := ⟨"ResourceSummary", [.required "id" .text, .required "name" .text]⟩

def decode (v : Value) : Except DecodeError Summary := do
  let ms ← shape.read v
  .ok ⟨ms.text "id", ms.text "name"⟩

def value (s : Summary) : Value := .object [("id", .string s.id), ("name", .string s.name)]

/-- What a listing must tell of each entry. -/
def entryShape : Shape := ⟨"RawSummary", [.required "name" .text]⟩

def ofEntry (entry : String × Value) : Except Error Summary := do
  .ok ⟨entry.1, (← record entryShape entry.2).text "name"⟩

end Summary

/-- The entries of a listing. -/
def listing : Value → Except DecodeError (Entries Value)
  | .object members => .ok members
  | v => .error (.wrongType (.of v) "a map")

def summaries (entries : Entries Value) : Except Error (List Summary) :=
  entries.mapM Summary.ofEntry

def sensorInfos (entries : Entries Value) : Except Error (List SensorInfo) :=
  entries.mapM fun entry => SensorInfo.decode entry.1 entry.2

end ZigbeeBridge.Gateway
