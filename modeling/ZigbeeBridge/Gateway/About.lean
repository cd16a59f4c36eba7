import ZigbeeBridge.Data.Decode

/-!
What a gateway says about itself, which is also what a health probe asks for.
-/
namespace ZigbeeBridge.Gateway

open Data

structure About where
  name : String
  version : String
  bridgeId : Option String
  apiVersion : Option String
  pushPort : Option UInt16
  deriving DecidableEq, Repr

namespace About

def shape : Shape :=
  ⟨"GatewayConfig",
    [.defaulted "name" .text, .defaulted "swversion" .text, .maybe "bridgeid" .text,
     .maybe "apiversion" .text, .maybe "websocketport" .uint16]⟩

def ofMembers (ms : Entries Value) : About :=
  ⟨ms.text "name", ms.text "swversion", ms.text? "bridgeid", ms.text? "apiversion",
    ms.uint16? "websocketport"⟩

def decode (v : Value) : Except DecodeError About := do .ok (ofMembers (← shape.read v))

def value (about : About) : Value :=
  .object [("name", .string about.name), ("swversion", .string about.version),
    ("bridgeid", .ofOption .string about.bridgeId),
    ("apiversion", .ofOption .string about.apiVersion),
    ("websocketport", .ofOption .uint16 about.pushPort)]

end About

end ZigbeeBridge.Gateway
