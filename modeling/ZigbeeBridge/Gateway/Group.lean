import ZigbeeBridge.Gateway.Fragment

/-!
A group of lights as a gateway describes it.
-/
namespace ZigbeeBridge.Gateway

open Data

structure GroupState where
  allOn : Bool
  anyOn : Bool
  deriving DecidableEq, Repr

structure Group where
  id : String
  name : String
  type : String
  state : GroupState
  deriving DecidableEq, Repr

namespace GroupState

def shape : Shape :=
  ⟨"LightGroupState", [.required "all_on" .bool, .required "any_on" .bool]⟩

def ofMembers (ms : Entries Value) : GroupState :=
  ⟨(ms.bool? "all_on").getD false, (ms.bool? "any_on").getD false⟩

def value (s : GroupState) : Value :=
  .object [("all_on", .bool s.allOn), ("any_on", .bool s.anyOn)]

end GroupState

namespace Group

def shape : Shape :=
  ⟨"RawGroup",
    [.required "name" .text, .required "type" .text, .required "state" GroupState.shape.check]⟩

def decode (id : String) (v : Value) : Except Error Group := do
  let ms ← record shape v
  let state ← record GroupState.shape (ms.value "state")
  .ok { id, name := ms.text "name", type := ms.text "type", state := .ofMembers state }

def value (group : Group) : Value :=
  .object [("id", .string group.id), ("name", .string group.name),
    ("group_type", .string group.type), ("state", group.state.value)]

end Group

end ZigbeeBridge.Gateway
