import ZigbeeBridge.Gateway.Error
import ZigbeeBridge.Url.Printer

/-!
Requests to a gateway and what comes of them.
-/
namespace ZigbeeBridge.Gateway

inductive Method where
  | get
  | put
  deriving DecidableEq, Repr

def Method.name : Method → String
  | get => "GET"
  | put => "PUT"

structure Request where
  method : Method
  url : Url
  body : Option String
  deriving DecidableEq, Repr

/-- The request as a log shows it. -/
def Request.text (request : Request) : String :=
  let line := s!"{request.method.name} {request.url.bare.text}"
  match request.body with
  | some body => s!"{line} {body}"
  | none => line

/-- A response, whose body may have been cut short, or none at all. -/
inductive Answer where
  | response (status : UInt16) (body : Option String)
  | none
  | timeout
  deriving DecidableEq, Repr

end ZigbeeBridge.Gateway
