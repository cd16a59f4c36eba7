import ZigbeeBridge.Gateway.Error
import ZigbeeBridge.Json.Wording

/-!
Decoding a part of a body. A part that does not fit is reported together with its own text.
-/
namespace ZigbeeBridge.Gateway

open Data

def undecodable (v : Value) (e : DecodeError) : Error :=
  .undecodable (Json.wording e) (Json.compact v)

/-- The members of a record, checked against its shape. -/
def record (shape : Shape) (v : Value) : Except Error (Entries Value) :=
  (shape.read v).mapError (undecodable v)

end ZigbeeBridge.Gateway
