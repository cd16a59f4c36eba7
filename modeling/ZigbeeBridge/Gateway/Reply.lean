import ZigbeeBridge.Gateway.Envelope
import ZigbeeBridge.Gateway.Exchange
import ZigbeeBridge.Json.Parser
import ZigbeeBridge.Text.Utf8

/-!
From an answer to a decoded body: the status, the text, the document, the error envelope and the
shape are checked in this order.
-/
namespace ZigbeeBridge.Gateway

open Data Text

/-- Bytes of a body that an error may show. -/
def previewLength : Nat := 200

def preview (body : String) : String := takeBytesOf previewLength body

def isSuccess (status : UInt16) : Bool := 200 ≤ status && status < 300

/-- The text of a successful answer. -/
def content : Answer → Except Error String
  | .none => .error (.transport .noAnswer)
  | .timeout => .error (.transport .timeout)
  | .response status body =>
    if !isSuccess status then .error (.status status (preview (body.getD "")))
    else match body with
      | some body => .ok body
      | none => .error (.transport .brokenBody)

def document (body : String) : Except Error Value :=
  (Json.parse body).mapError fun e =>
    .undecodable s!"{e} (body preview: {quoted (preview body)})" body

def reply {α : Type} (decode : Value → Except DecodeError α) (answer : Answer) :
    Except Error α := do
  let body ← content answer
  let v ← document body
  checkEnvelope v
  (decode v).mapError fun e => .undecodable (Json.wording e) body

end ZigbeeBridge.Gateway
