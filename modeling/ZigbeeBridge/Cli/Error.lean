import ZigbeeBridge.Bridge.Error
import ZigbeeBridge.Config.Error

/-!
What the program tells a user who cannot have what was ordered: a message, its cause, advice, and a
code to look up. Each error has the exit code of its kind.
-/
namespace ZigbeeBridge.Cli

inductive Error where
  | unreachable (address : String)
  | request (cause : Bridge.Error)
  | timeout
  | unauthorized (profile : String)
  | notAccepted (target id : String)
  | noToken (profile : String)
  | unknownProfile (name : String) (known : List String)
  | noGateway (path : String)
  | invalid (field reason : String)
  | config (cause : ConfigError)
  | unprintable (reason : String)
  deriving DecidableEq, Repr

namespace Error

def message : Error → String
  | unreachable address => s!"Could not reach the gateway at {address}"
  | request cause => s!"Request failed: {cause.message}"
  | timeout => "Gateway did not answer in time"
  | unauthorized profile => s!"Gateway rejected the API key for profile '{profile}'"
  | notAccepted target id => s!"{target} '{id}' did not accept the command"
  | noToken profile => s!"No token configured for profile '{profile}'"
  | unknownProfile name _ => s!"Profile '{name}' not found in configuration"
  | noGateway _ => "No gateway configured"
  | invalid field reason => s!"Invalid value for {field}: {reason}"
  | config cause => cause.message
  | unprintable reason => s!"Failed to render output: {reason}"

def cause? : Error → Option String
  | request cause => some cause.message
  | _ => none

def help : Error → List String
  | unreachable address =>
    ["Check that the gateway is running and the token is valid.", s!"Address: {address}",
      "Try: deconz-bridge probe -vv"]
  | timeout => ["Increase the timeout with --timeout or in the profile."]
  | unauthorized _ => ["Unlock the gateway in Phoscon and issue a new API key."]
  | notAccepted _ _ => ["Run with -v to see the gateway's reply."]
  | noToken _ =>
    ["Set `token_env` or `token` in the profile, store it in the keyring",
      "under service 'deconz-bridge', or pass --token."]
  | unknownProfile _ known =>
    let names := if known.isEmpty then "(none)" else ", ".intercalate known
    [s!"Available profiles: {names}"]
  | noGateway path => ["Pass --address and --token, or add a profile to", path]
  | request _ | invalid _ _ | config _ | unprintable _ => []

def code : Error → String
  | unreachable _ => "deconz::connection_failed"
  | request _ => "deconz::request_failed"
  | timeout => "deconz::timeout"
  | unauthorized _ => "deconz::auth_failed"
  | notAccepted _ _ => "deconz::command_failed"
  | noToken _ => "deconz::no_token"
  | unknownProfile _ _ => "deconz::profile_not_found"
  | noGateway _ => "deconz::no_config"
  | invalid _ _ => "deconz::validation"
  | config _ => "deconz::config"
  | unprintable _ => "deconz::render"

def exitCode : Error → UInt8
  | notAccepted _ _ | config _ | unprintable _ => 1
  | noGateway _ | invalid _ _ => 2
  | unauthorized _ | noToken _ => 3
  | unknownProfile _ _ => 4
  | unreachable _ => 7
  | request cause => if cause.kind = .transport then 7 else 1
  | timeout => 8

def diagnosticLines (e : Error) : List String :=
  [e.message, "    Diagnostic severity: error"] ++
    (e.cause?.map fun cause => s!"    Caused by: {cause}").toList ++
    (if e.help.isEmpty then [] else ["diagnostic help: " ++ "\n".intercalate e.help]) ++
    [s!"diagnostic code: {e.code}", ""]

/-- The whole report of an error. -/
def diagnostic (e : Error) : String := String.join (e.diagnosticLines.map (· ++ "\n"))

/-- An error of the bridge; one about the token tells for which profile that was. -/
def ofBridge (profile : String) (e : Bridge.Error) : Error :=
  if e.isUnauthorized then unauthorized profile
  else match e with
    | .timeout => timeout
    | cause => request cause

def ofConfig : ConfigError → Error
  | .noToken profile => noToken profile
  | .invalid field reason => invalid field reason
  | cause => config cause

end Error

end ZigbeeBridge.Cli
