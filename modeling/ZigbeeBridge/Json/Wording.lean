import ZigbeeBridge.Data.Decode
import ZigbeeBridge.Json.Printer

/-!
The wording of a value that does not fit, for values read from JSON.
-/
namespace ZigbeeBridge.Json

open Data

def describe : Found → String
  | .null => "null"
  | .bool b => s!"boolean `{b}`"
  | .integer n => s!"integer `{n}`"
  | .double d => s!"floating point `{d.pointedText}`"
  | .text s => s!"string {Text.quoted s}"
  | .sequence => "sequence"
  | .map => "map"

def wording : DecodeError → String
  | .wrongType found expected => s!"invalid type: {describe found}, expected {expected}"
  | .wrongValue found expected => s!"invalid value: {describe found}, expected {expected}"
  | .tooFew n expected => s!"invalid length {n}, expected {expected}"
  | .tooMany n limit => s!"invalid length {n}, expected {lessThan limit}"
  | .missingField name => s!"missing field `{name}`"
  | .repeatedField name => s!"duplicate field `{name}`"
  | .unknownVariant name known => s!"unknown variant `{name}`, expected {oneOf known}"
  | .notAnId v => s!"expected string id, got {compact v}"

end ZigbeeBridge.Json
