import ZigbeeBridge.Url.Basic

/-!
What can go wrong in one exchange with a gateway.
-/
namespace ZigbeeBridge.Gateway

/-- How a request fails before there is an answer to look at. -/
inductive TransportFault where
  | notSendable
  | noAnswer
  | timeout
  | brokenBody
  deriving DecidableEq, Repr

def TransportFault.message : TransportFault → String
  | notSendable => "builder error"
  | noAnswer => "error sending request"
  | timeout => "error sending request"
  | brokenBody => "error decoding response body"

inductive Error where
  | transport (fault : TransportFault)
  | badUrl (flaw : Url.Flaw)
  | status (code : UInt16) (body : String)
  | rejected (description : String) (code : Int64)
  | undecodable (message : String) (body : String)
  | pushFailed (reason : String)
  deriving DecidableEq, Repr

namespace Error

def message : Error → String
  | transport fault => s!"HTTP transport error: {fault.message}"
  | badUrl flaw => s!"Invalid URL: {flaw.message}"
  | status code body => s!"Bad HTTP response code {code}: {body}"
  | rejected description code => s!"deCONZ processing error {code}: {description}"
  | undecodable message _ => s!"Deserialization error: {message}"
  | pushFailed reason => s!"WebSocket connection failed: {reason}"

/-- The channel failed, not what came over it. -/
def isTransport : Error → Bool
  | transport _ | badUrl _ | status _ _ | pushFailed _ => true
  | rejected _ _ | undecodable _ _ => false

def isTimeout : Error → Bool
  | transport .timeout => true
  | _ => false

/-- The gateway does not accept the token. -/
def isUnauthorized : Error → Bool
  | rejected _ code => code == 1
  | _ => false

def vendorCode : Error → Option Int64
  | rejected _ code => some code
  | _ => none

end Error

end ZigbeeBridge.Gateway
