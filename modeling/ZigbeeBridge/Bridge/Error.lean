import ZigbeeBridge.Gateway.Error

/-!
Errors of the bridge. Those of an exchange fall into the ones where the channel failed and the ones
where the gateway answered with something that is of no use.
-/
namespace ZigbeeBridge.Bridge

inductive ErrorKind where
  | transport
  | protocol
  | config
  | internal
  deriving DecidableEq, Repr

def ErrorKind.name : ErrorKind → String
  | transport => "Transport"
  | protocol => "Protocol"
  | config => "Config"
  | internal => "Internal"

inductive Error where
  | unreachable (reason : String)
  | timeout
  | status (code : UInt16) (body : String)
  | pushChannel (reason : String)
  | rejected (description : String) (code : Int64)
  | malformed (message : String)
  | config (message : String)
  | shutDown
  deriving DecidableEq, Repr

namespace Error

def message : Error → String
  | unreachable reason => s!"Cannot reach bridge: {reason}"
  | timeout => "Bridge did not answer within the read timeout"
  | status code body => s!"Bridge answered with HTTP {code}: {body}"
  | pushChannel reason => s!"Push channel failed: {reason}"
  | rejected description code => s!"Bridge rejected the request: {description} (error {code})"
  | malformed message => s!"Unexpected response from bridge: {message}"
  | config message => s!"Configuration error: {message}"
  | shutDown => "Bridge is shut down"

def kind : Error → ErrorKind
  | unreachable _ | timeout | status _ _ | pushChannel _ => .transport
  | rejected _ _ | malformed _ => .protocol
  | config _ => .config
  | shutDown => .internal

/-- The gateway does not accept the token. -/
def isUnauthorized : Error → Bool
  | rejected _ code => code == 1
  | _ => false

def ofGateway : Gateway.Error → Error
  | .transport .timeout => timeout
  | .transport fault => unreachable fault.message
  | .badUrl flaw => config s!"invalid bridge URL: {flaw.message}"
  | .status code body => status code body
  | .rejected description code => rejected description code
  | .undecodable message _ => malformed message
  | .pushFailed reason => pushChannel reason

end Error

end ZigbeeBridge.Bridge
