import ZigbeeBridge.Bridge.Settings
import ZigbeeBridge.Config.Error
import ZigbeeBridge.Config.Profile
import ZigbeeBridge.Text.Blank
import ZigbeeBridge.Toml.Printer

/-!
From a configuration to the settings of a bridge: which profile, which token, and what the profile
leaves to the defaults.
-/
namespace ZigbeeBridge

open Data Bridge

namespace Config

/-- The profile of a name; where none is given, the usual one. -/
def profile (c : Config) (name : Option String) : Except ConfigError (String × Profile) :=
  let name := c.profileName name
  match c.profiles.get? name with
  | some profile => .ok (name, profile)
  | none => .error (.unknownProfile name)

def toml (c : Config) : Except String String := Toml.print c.value.members

/-- The text of the configuration file. -/
def text (c : Config) : Except ConfigError String := c.toml.mapError .unwritable

def putProfile (c : Config) (name : String) (profile : Profile) : Config :=
  { c with profiles := c.profiles.putSorted name profile }

end Config

namespace Profile

/-- The token of a profile: from its environment variable, or its own. -/
def resolveToken (p : Profile) (name : String) (environment : Entries String) :
    Except ConfigError String :=
  match (p.tokenVariable.bind environment.get?).or p.token with
  | some token => .ok token
  | none => .error (.noToken name)

def hasAddress (p : Profile) : Bool := !Text.isAllBlank p.address

def settingsWith (p : Profile) (defaults : Defaults) (token : String) : Settings :=
  { address := p.address
    token
    identity := p.identity
    refreshInterval := p.refreshInterval.getD defaults.refreshInterval
    timeoutMs := 1000 * (p.timeout.getD defaults.timeout).toNat
    spacingMs := (p.spacingMs.getD defaults.spacingMs).toNat
    pushEnabled := p.push
    pushPort := p.pushPort
    itemFailure := p.itemFailure
    acceptAnyCertificate := p.insecure }

def settings (p : Profile) (name : String) (defaults : Defaults) (environment : Entries String) :
    Except ConfigError Settings := do
  if !p.hasAddress then throw (.invalid "address" s!"profile '{name}' has no address")
  pure (p.settingsWith defaults (← p.resolveToken name environment))

end Profile

end ZigbeeBridge
