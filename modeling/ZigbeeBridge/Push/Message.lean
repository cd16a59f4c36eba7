import ZigbeeBridge.Bus.Event

/-!
One change of state that the gateway pushes, and the event that it becomes: each scalar field of
the state is an attribute, as a text.
-/
namespace ZigbeeBridge.Push

open Data Bus

structure Message where
  resource : String
  id : String
  state : Option (Entries Value)
  deriving Repr

/-- A number without its fraction. -/
def wholeText : Number → String
  | .integer n _ => toString n
  | .double d => toString d.truncate

/-- The text of a scalar; null and nested values have none. -/
def scalarText? : Value → Option String
  | .string s => some s
  | .number n => some (wholeText n)
  | .bool b => some (if b then "true" else "false")
  | .null | .array _ | .object _ => none

def stateAttributes (state : Entries Value) : List (String × Attribute) :=
  state.filterMap fun field =>
    (scalarText? field.2).map fun text => (Attribute.nameStart ++ field.1, .text text)

def flatten (message : Message) : Event :=
  (Event.inbound (.ofResource message.resource) message.id).setAll
    (stateAttributes (message.state.getD []))

end ZigbeeBridge.Push
