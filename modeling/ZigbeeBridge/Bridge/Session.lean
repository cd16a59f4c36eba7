import ZigbeeBridge.Bridge.Address
import ZigbeeBridge.Bridge.Settings
import ZigbeeBridge.Gateway.Client

/-!
A session with one gateway: where it is, what it told about itself, and how many heartbeats have
passed since the last refresh. The client is made on first use and dropped when the address
changes.
-/
namespace ZigbeeBridge.Bridge

open Gateway

structure Session where
  address : String
  token : String
  identity : String
  about : Option About
  refreshInterval : UInt32
  refreshCounter : UInt32
  client : Option Client
  deriving DecidableEq, Repr

/-- One more, unless that is out of range. -/
def increment (n : UInt32) : UInt32 := if n = 0xFFFFFFFF then n else n + 1

namespace Session

def start (settings : Settings) : Session :=
  { address := normalizeAddress settings.address
    token := settings.token
    identity := settings.identity
    about := none
    refreshInterval := settings.refreshInterval
    refreshCounter := 0
    client := none }

/-- The client for the current address, and the session that keeps it. -/
def connectClient (s : Session) : Except Error (Client × Session) :=
  match s.client with
  | some client => .ok (client, s)
  | none => do
    let client : Client := ⟨← baseUrl s.address, s.token⟩
    .ok (client, { s with client := some client })

def setAddress (s : Session) (address : String) : Session :=
  let normalized := normalizeAddress address
  if normalized = s.address then s else { s with address := normalized, client := none }

/-- Counts a heartbeat; whether a refresh is due. -/
def tick (s : Session) : Bool × Session :=
  let counter := increment s.refreshCounter
  if counter > s.refreshInterval then (true, { s with refreshCounter := 0 })
  else (false, { s with refreshCounter := counter })

/-- A new interval, with a refresh due at the next heartbeat. -/
def setInterval (s : Session) (interval : UInt32) : Session :=
  { s with refreshInterval := interval, refreshCounter := increment interval }

/-- The port of the push channel where nothing else names one. -/
def usualPushPort : UInt16 := 443

def pushTarget (s : Session) (settings : Settings) : Except Error Url := do
  let told := settings.pushPort.or (s.about.bind (·.pushPort))
  pushUrl (← baseUrl s.address) (told.getD usualPushPort)

end Session

end ZigbeeBridge.Bridge
