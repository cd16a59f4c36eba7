import ZigbeeBridge.Bridge.Execute
import ZigbeeBridge.Bridge.Refresh
import ZigbeeBridge.Bridge.State
import ZigbeeBridge.Push.Frame

/-!
The operations of a bridge. Those that the bus asks for never fail towards it; a failure shows in
the health. Messages are handled one at a time, in place or from the queue.
-/
namespace ZigbeeBridge.Bridge

open Bus Dialogue Gateway

abbrev Operation := StateT State Dialogue

namespace Operation

def setHealth (health : Health) : Operation Unit := modify fun s => { s with health }

def setSession (session : Session) : Operation Unit := modify fun s => { s with session }

/-- Runs an attempt with the client for the current address. -/
def withClient {α : Type} (attempt : Client → Attempt Error α) : Operation (Except Error α) := do
  match (← get).session.connectClient with
  | .error e => pure (.error e)
  | .ok (client, session) =>
    setSession session
    liftM (attempt client).run

/-- A failure shows in the health. -/
def heed {α : Type} (result : Except Error α) : Operation (Except Error α) := do
  if result matches .error _ then setHealth .disconnected
  pure result

/-! Health and the push connection. -/

/-- Asks the gateway about itself; the answer alone decides the health. -/
def probe : Operation Health := do
  match ← withClient fun client => calling client.getAbout with
  | .ok about =>
    modify fun s => { s with session := { s.session with about := some about } }
    setHealth .connected
  | .error _ => setHealth .disconnected
  pure (← get).health

/-- The push connection is gone, or never came to be. -/
def pushEnded : Operation Unit := modify fun s =>
  if s.push.isSome then { s with push := none, health := .disconnected } else s

/-- A text that arrives on the push connection; one that is no message is dropped. -/
def pushReceived (text : String) : Operation Unit := do
  if (← get).push.isSome then
    match Push.parse text with
    | .ok message => liftM (publishing (Push.flatten message))
    | .error _ => pure ()

/-- Opens the push connection where the settings want one; after a shutdown it ends at once. -/
def startPush : Operation Unit := do
  let s ← get
  if s.settings.pushEnabled then
    match s.session.pushTarget s.settings with
    | .ok url =>
      set { s with push := some url }
      if s.shutDown then pushEnded
    | .error _ => pure ()

def connect : Operation Health := do
  pushEnded
  setHealth .connecting
  let health ← probe
  startPush
  pure health

def disconnect : Operation Unit := do
  pushEnded
  setHealth .disconnected

def shutDown : Operation Unit := do
  disconnect
  modify fun s => { s with queue := [], shutDown := true }

/-! What the bus asks for. -/

def execute (command : Command) : Operation Unit := do
  match ← heed (← withClient fun client => executeCommand client command) with
  | .ok event => liftM (publishing event)
  | .error _ => pure ()

/-- Only commands for lights and groups are meant for the bridge. -/
def isOurs (event : Event) : Bool :=
  event.direction == .outbound && (Command.target? event.kind).isSome

def handleEvent (event : Event) : Operation Bool := do
  if !isOurs event then pure false
  else
    match Command.ofEvent? event with
    | some command => execute command
    | none => pure ()
    pure true

def refresh (sensors : Bool) : Operation (Except Error Report) := do
  let settings := (← get).settings
  withClient fun client => refreshAll client ⟨sensors, settings.spacingMs, settings.itemFailure⟩

/-- Reports all lights, groups and perhaps sensors. -/
def reportAll (sensors : Bool) : Operation (Except Error Report) := do
  heed (← refresh sensors)

/-- Whether a refresh was due; one that is due and finds no gateway is left out. -/
def heartbeat : Operation Bool := do
  let (due, session) := (← get).session.tick
  setSession session
  if !due then pure false
  else
    let health ← if (← get).health = .connected then pure .connected else probe
    if health = .connected then
      let _ ← reportAll false
    pure true

def reportOne (id : String) : Operation Unit := do
  let _ ← heed (← withClient fun client => reportLight client id)

/-- What the model name of every gateway of the right make begins with. -/
def modelStart : List Char := "deCONZ bridge".toList

def discovered (model serial location : String) : Operation Bool := do
  let session := (← get).session
  if !modelStart.isPrefixOf model.toList ∨ session.identity = "" ∨ session.identity ≠ serial then
    pure false
  else
    setSession (session.setAddress (reduceLocation location))
    pure true

/-- Handles a message; whether it was meant for this bridge. -/
def handle : Message → Operation Bool
  | .event event => handleEvent event
  | .reportItems => do
    let _ ← reportAll true
    pure true
  | .heartbeat => heartbeat
  | .reportLight id => do
    reportOne id
    pure true
  | .discovered model serial location => discovered model serial location

/-- Puts a message into the queue. -/
def submit (message : Message) : Operation (Except Error Unit) := do
  if (← get).shutDown then pure (.error .shutDown)
  else
    modify fun s => { s with queue := s.queue ++ [message] }
    pure (.ok ())

def handleAll : List Message → Operation Unit
  | [] => pure ()
  | message :: rest => do
    let _ ← handle message
    handleAll rest

/-- Handles what is in the queue, in order. -/
def dispatch : Operation Unit := do
  let queue := (← get).queue
  modify fun s => { s with queue := [] }
  handleAll queue

def setRefreshInterval (interval : UInt32) : Operation Unit :=
  modify fun s => { s with session := s.session.setInterval interval }

def setAddress (address : String) : Operation Unit :=
  modify fun s => { s with session := s.session.setAddress address }

end Operation

end ZigbeeBridge.Bridge
