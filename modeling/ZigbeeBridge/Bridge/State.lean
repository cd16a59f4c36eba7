import ZigbeeBridge.Bridge.Session
import ZigbeeBridge.Bus.Event

/-!
The state of a bridge: its settings, its session, its health, the push connection it holds and the
messages that wait.
-/
namespace ZigbeeBridge.Bridge

open Bus

inductive Health where
  | disconnected
  | connecting
  | connected
  deriving DecidableEq, Repr

def Health.name : Health → String
  | disconnected => "Disconnected"
  | connecting => "Connecting"
  | connected => "Connected"

/-- What the bus tells a bridge. -/
inductive Message where
  | event (event : Event)
  | reportItems
  | heartbeat
  | reportLight (id : String)
  | discovered (model serial location : String)
  deriving DecidableEq, Repr

structure State where
  settings : Settings
  session : Session
  health : Health
  /-- Where the push connection goes that is open or about to open. -/
  push : Option Url
  queue : List Message
  shutDown : Bool
  deriving DecidableEq, Repr

def State.start (settings : Settings) : State :=
  ⟨settings, .start settings, .disconnected, none, [], false⟩

/-- A view of the session for whoever asks. -/
structure Status where
  address : String
  identity : String
  health : Health
  deviceName : String
  version : String
  refreshInterval : UInt32
  refreshCounter : UInt32
  deriving DecidableEq, Repr

def State.status (s : State) : Status :=
  { address := s.session.address
    identity := s.session.identity
    health := s.health
    deviceName := (s.session.about.map (·.name)).getD ""
    version := (s.session.about.map (·.version)).getD ""
    refreshInterval := s.session.refreshInterval
    refreshCounter := s.session.refreshCounter }

def Status.value (status : Status) : Data.Value :=
  .object [("address", .string status.address), ("identity", .string status.identity),
    ("state", .string status.health.name), ("device_name", .string status.deviceName),
    ("sw_version", .string status.version), ("refresh_interval", .uint32 status.refreshInterval),
    ("refresh_counter", .uint32 status.refreshCounter)]

end ZigbeeBridge.Bridge
