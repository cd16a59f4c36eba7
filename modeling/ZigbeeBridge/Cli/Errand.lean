import ZigbeeBridge.Bridge.Operation
import ZigbeeBridge.Bus.Subscription
import ZigbeeBridge.Cli.Outcome
import ZigbeeBridge.Cli.View

/-!
What a command does at the gateway: it has a bridge of its own, which it listens to while the
operation goes on, and prints what it got.
-/
namespace ZigbeeBridge.Cli

open Bus Bridge Dialogue

/-- An operation on a new bridge, with the events that were published meanwhile. -/
def onBridge {α : Type} (settings : Settings) (operation : Operation α) :
    Dialogue ((α × State) × List Event) :=
  (operation.run (.start settings)).hearing []

/-- Succeeds if the gateway answers. -/
def probeErrand (options : Options) (settings : Settings) : Dialogue Outcome := do
  let ((health, state), _) ← onBridge settings Operation.probe
  let status := state.status
  if health = .connected then pure (printValue options (statusLines status) status.value)
  else pure (.failed (.unreachable status.address))

/-- Prints the events of a whole refresh, as far as they have not been missed. -/
def reportErrand (options : Options) (profile : String) (settings : Settings) (sensors : Bool) :
    Dialogue Outcome := do
  let ((result, _), published) ← onBridge settings (Operation.reportAll sensors)
  match result with
  | .ok _ =>
    let events := (received published).events
    pure (printValue options (eventTable events) (.array (events.map Event.value)))
  | .error e => pure (.failed (.ofBridge profile e))

/-- The event that a bus would command with. -/
def SwitchOrder.event (order : SwitchOrder) : Event :=
  let command := Attribute.text (if order.on then "On" else "Off")
  let numbers := [(Attribute.brightness, order.brightness),
    (Attribute.temperature, order.temperature), (Attribute.hue, order.hue),
    (Attribute.saturation, order.saturation)]
  ((Event.outbound order.kind order.id).set Attribute.command command).setAll
    (numbers.filterMap fun pair => pair.2.map fun n => (pair.1, Attribute.int n))

/-- A command that the gateway took is followed by an event, which is printed. -/
def commandErrand (options : Options) (settings : Settings) (order : SwitchOrder)
    (command : Command) : Dialogue Outcome := do
  let (_, published) ← onBridge settings (Operation.execute command)
  match (received published).events with
  | event :: _ => pure (printValue options (eventLines event) event.value)
  | [] => pure (.failed (.notAccepted order.kind.name order.id))

def switchErrand (options : Options) (settings : Settings) (order : SwitchOrder) :
    Dialogue Outcome :=
  match Command.ofEvent? order.event with
  | some command => commandErrand options settings order command
  | none => pure (.failed (.invalid "id" "must not be empty"))

/-- A bridge at work until it is interrupted. -/
structure Watch where
  options : Options
  settings : Settings
  order : WatchOrder

namespace Watch

def connect (w : Watch) : Operation Unit := do
  if let some interval := w.order.refreshInterval then Operation.setRefreshInterval interval
  let _ ← Operation.connect

/-- Reports everything once unless the user wants none of it. -/
def firstReport (w : Watch) : Operation Unit := do
  if w.order.initialReport then
    let _ ← Operation.submit .reportItems
  Operation.dispatch

def start (w : Watch) : Operation Unit := do
  w.connect
  w.firstReport

def beat : Operation Unit := do
  let _ ← Operation.submit .heartbeat
  Operation.dispatch

/-- What is printed of an event. -/
def line (w : Watch) (event : Event) : String :=
  (Outcome.printed w.options (Json.compact event.value)).output

end Watch

end ZigbeeBridge.Cli
