import ZigbeeBridge.Bridge.State
import ZigbeeBridge.Text.Table

/-!
How events and the status of a bridge look on a terminal.
-/
namespace ZigbeeBridge.Cli

open Bus Bridge

/-- The name of an attribute without what all of them begin with. -/
def shortName (key : String) : String :=
  let start := Attribute.nameStart.toList
  if start.isPrefixOf key.toList then String.ofList (key.toList.drop start.length) else key

/-- Temperatures are shown in degrees. -/
def degrees (value : Attribute) : String :=
  match value.int? with
  | some centi => (Gateway.TemperatureReading.mk centi "").display ++ "°C"
  | none => value.toText

def attributeText (key : String) (value : Attribute) : String :=
  let shown := if key = Attribute.sensorTemperature then degrees value else value.toText
  s!"{shortName key}={shown}"

/-- Attributes with a column of their own. -/
def inColumns (key : String) : Bool :=
  [Attribute.id, Attribute.name, Attribute.command].contains key

def details (event : Event) : String :=
  " ".intercalate ((event.attributes.filter fun pair => !inColumns pair.1).map fun pair =>
    attributeText pair.1 pair.2)

def eventHeader : List String := ["Type", "ID", "Name", "State", "Details"]

def eventRow (event : Event) : List String :=
  [event.kind.name, event.id?.getD "", (event.text? Attribute.name).getD "",
    (event.text? Attribute.command).getD "", details event]

def eventTable (events : List Event) : String := Text.Table.draw eventHeader (events.map eventRow)

/-- A name with a colon, and blanks up to fourteen characters. -/
def label (key : String) : String :=
  let name := shortName key ++ ":"
  name ++ String.ofList (List.replicate (14 - name.length) ' ')

/-- One event, an attribute a line. -/
def eventLines (event : Event) : String :=
  "\n".intercalate (event.attributes.map fun pair => label pair.1 ++ pair.2.toText)

def statusLines (status : Status) : String :=
  let identity := if status.identity.isEmpty then "-" else status.identity
  "\n".intercalate
    [s!"Address:  {status.address}", s!"State:    {status.health.name}",
      s!"Name:     {status.deviceName}", s!"Firmware: {status.version}", s!"Identity: {identity}"]

end ZigbeeBridge.Cli
