import ZigbeeBridge.Cli.Error
import ZigbeeBridge.Cli.Order
import ZigbeeBridge.Config.Path
import ZigbeeBridge.Config.Resolve

/-!
The settings that a command line works with: those of a profile, or of the options alone where there
is no such profile. Options go before what the profile says.
-/
namespace ZigbeeBridge.Cli

open Data Bridge

/-- A profile with what the options say about the gateway. -/
def Options.apply (options : Options) (profile : Profile) : Profile :=
  { profile with
    address := options.address.getD profile.address
    token := options.token.or profile.token }

/-- Settings with what the options say about the exchange with the gateway. -/
def Options.adjust (options : Options) (settings : Settings) : Settings :=
  { settings with
    token := options.token.getD settings.token
    timeoutMs := (options.timeout.map fun seconds => 1000 * seconds.toNat).getD settings.timeoutMs
    acceptAnyCertificate := settings.acceptAnyCertificate || options.insecure }

def settingsOf (options : Options) (defaults : Defaults) (environment : Entries String)
    (name : String) (profile : Profile) : Except Error Settings :=
  match profile.settings name defaults environment with
  | .ok settings => .ok (options.adjust settings)
  | .error e => .error (.ofConfig e)

/-- The profile that the options alone describe. -/
def profileOf (options : Options) (config : Config) (path name : String) :
    Except Error Profile :=
  match options.address, options.token with
  | some address, some token => .ok { Profile.ofAddress address with token := some token }
  | some _, none => .error (.noToken name)
  | none, _ =>
    if options.profile.isSome then .error (.unknownProfile name config.profiles.keys)
    else .error (.noGateway path)

/-- The name of the profile in use, and the settings from it. -/
def resolve (options : Options) (config : Config) (environment : Entries String) :
    Except Error (String × Settings) := do
  let name := config.profileName options.profile
  let profile ← match config.profiles.get? name with
    | some profile => .ok (options.apply profile)
    | none => profileOf options config (configPath environment) name
  .ok (name, ← settingsOf options config.defaults environment name profile)

/-- What stands for a token that is shown. -/
def maskedToken : String := "********"

def redactedProfile (profile : Profile) : Profile :=
  { profile with token := profile.token.map fun _ => maskedToken }

/-- The configuration without its tokens. -/
def redacted (config : Config) : Config :=
  { config with profiles := config.profiles.map fun entry => (entry.1, redactedProfile entry.2) }

end ZigbeeBridge.Cli
