import ZigbeeBridge.Gateway.Fragment

/-!
The envelope in which a gateway reports an error: an object with a member `error`, alone or among
the entries of an array.
-/
namespace ZigbeeBridge.Gateway

open Data

/-- The first error that a body reports. -/
def reported? : Value → Option Value
  | .object members => Entries.get? members "error"
  | .array items => items.findSome? (·.member? "error")
  | _ => none

def description (error : Value) : String :=
  match error.member? "description" with
  | some (.string s) => s
  | _ => ""

def errorCode (error : Value) : Int64 :=
  match error.member? "type" with
  | some (.number (.integer n _)) => if n < 0x8000000000000000 then .ofInt n else -1
  | _ => -1

/-- A body that reports no error. -/
def checkEnvelope (v : Value) : Except Error Unit :=
  match reported? v with
  | some error => .error (.rejected (description error) (errorCode error))
  | none => .ok ()

end ZigbeeBridge.Gateway
