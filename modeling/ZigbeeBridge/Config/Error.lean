/-!
What can go wrong with a configuration.
-/
namespace ZigbeeBridge

inductive ConfigError where
  | invalid (field : String) (reason : String)
  | unknownProfile (name : String)
  | noToken (profile : String)
  | unwritable (reason : String)
  | notToml (reason : String)
  | unreadable (reason : String)
  | storage (reason : String)
  deriving DecidableEq, Repr

def ConfigError.message : ConfigError → String
  | invalid field reason => s!"invalid {field}: {reason}"
  | unknownProfile name => s!"profile '{name}' not found"
  | noToken profile => s!"no token configured for profile '{profile}'"
  | unwritable reason => s!"failed to serialize config: {reason}"
  | notToml reason => s!"config loading failed: {reason}"
  | unreadable reason => s!"config loading failed: {reason}"
  | storage reason => s!"IO error: {reason}"

end ZigbeeBridge
