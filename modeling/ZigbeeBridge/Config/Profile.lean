import ZigbeeBridge.Bridge.Settings
import ZigbeeBridge.Data.Decode

/-!
Configurations: named profiles of gateways, and what stands in for what a profile leaves out.
-/
namespace ZigbeeBridge

open Data Bridge

structure Defaults where
  output : String
  timeout : UInt64
  refreshInterval : UInt32
  spacingMs : UInt64
  deriving DecidableEq, Repr

structure Profile where
  address : String
  identity : String
  token : Option String
  /-- The environment variable that holds the token. -/
  tokenVariable : Option String
  refreshInterval : Option UInt32
  timeout : Option UInt64
  spacingMs : Option UInt64
  push : Bool
  pushPort : Option UInt16
  itemFailure : ItemFailure
  insecure : Bool
  deriving DecidableEq, Repr

/-- The profiles are in the order of their names. -/
structure Config where
  defaultProfile : Option String
  defaults : Defaults
  profiles : Entries Profile
  deriving DecidableEq, Repr

/-- A choice between the names of variants, as one kind of document spells it. -/
structure EnumReader where
  policy : Value → Except DecodeError ItemFailure

def variantNamed (name : String) : Except DecodeError ItemFailure :=
  match ItemFailure.ofName? name with
  | some policy => .ok policy
  | none => .error (.unknownVariant name (ItemFailure.all.map (·.name)))

namespace Defaults

def usual : Defaults := ⟨"table", 10, 5, 100⟩

def shape : Shape :=
  ⟨"Defaults",
    [.defaulted "output" .text, .defaulted "timeout" .uint64,
     .defaulted "refresh_interval" .uint32, .defaulted "request_spacing_ms" .uint64]⟩

def ofMembers (ms : Entries Value) : Defaults :=
  { output := (ms.text? "output").getD usual.output
    timeout := (ms.uint64? "timeout").getD usual.timeout
    refreshInterval := (ms.uint32? "refresh_interval").getD usual.refreshInterval
    spacingMs := (ms.uint64? "request_spacing_ms").getD usual.spacingMs }

def value (d : Defaults) : Value :=
  .object [("output", .string d.output), ("timeout", .uint64 d.timeout),
    ("refresh_interval", .uint32 d.refreshInterval), ("request_spacing_ms", .uint64 d.spacingMs)]

end Defaults

namespace Profile

def ofAddress (address : String) : Profile :=
  ⟨address, "", none, none, none, none, none, true, none, .abort, false⟩

def shape (enum : EnumReader) : Shape :=
  ⟨"Profile",
    [.required "address" .text, .defaulted "identity" .text, .optional "token" .text,
     .optional "token_env" .text, .optional "refresh_interval" .uint32,
     .optional "timeout" .uint64, .optional "request_spacing_ms" .uint64,
     .defaulted "websocket" .bool, .optional "websocket_port" .uint16,
     .defaulted "item_failure" fun v => (enum.policy v).map fun _ => (),
     .defaulted "insecure" .bool]⟩

def ofMembers (enum : EnumReader) (ms : Entries Value) : Profile :=
  { address := ms.text "address"
    identity := ms.text "identity"
    token := ms.text? "token"
    tokenVariable := ms.text? "token_env"
    refreshInterval := ms.uint32? "refresh_interval"
    timeout := ms.uint64? "timeout"
    spacingMs := ms.uint64? "request_spacing_ms"
    push := (ms.bool? "websocket").getD true
    pushPort := ms.uint16? "websocket_port"
    itemFailure := ((ms.get? "item_failure").bind fun v => (enum.policy v).toOption).getD .abort
    insecure := (ms.bool? "insecure").getD false }

def decode (enum : EnumReader) (v : Value) : Except DecodeError Profile := do
  .ok (ofMembers enum (← (shape enum).read v))

def value (p : Profile) : Value :=
  .object [("address", .string p.address), ("identity", .string p.identity),
    ("token", .ofOption .string p.token), ("token_env", .ofOption .string p.tokenVariable),
    ("refresh_interval", .ofOption .uint32 p.refreshInterval),
    ("timeout", .ofOption .uint64 p.timeout),
    ("request_spacing_ms", .ofOption .uint64 p.spacingMs), ("websocket", .bool p.push),
    ("websocket_port", .ofOption .uint16 p.pushPort),
    ("item_failure", .string p.itemFailure.name), ("insecure", .bool p.insecure)]

end Profile

/-- In JSON a variant is its name, or an object with the name for its only key. -/
def EnumReader.json : EnumReader where
  policy
    | .string name => variantNamed name
    | .object [(name, content)] => do
      let policy ← variantNamed name
      match content with
      | .null => .ok policy
      | v => .error (.wrongType (.of v) "unit")
    | .object members => .error (.wrongValue (.of (.object members)) "map with a single key")
    | v => .error (.wrongType (.of v) "string or map")

/-- In a configuration a variant is its name. -/
def EnumReader.named : EnumReader where
  policy
    | .string name => variantNamed name
    | v => .error (.wrongType (.of v) "enum ItemFailurePolicy")

namespace Config

def usual : Config := ⟨some "default", .usual, []⟩

def value (c : Config) : Value :=
  .object [("default_profile", .ofOption .string c.defaultProfile), ("defaults", c.defaults.value),
    ("profiles", .object (c.profiles.map fun entry => (entry.1, entry.2.value)))]

/-- The name of the profile in use, where none is named. -/
def profileName (c : Config) (name : Option String) : String :=
  (name.or c.defaultProfile).getD "default"

end Config

end ZigbeeBridge
