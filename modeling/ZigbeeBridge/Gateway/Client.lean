import ZigbeeBridge.Dialogue
import ZigbeeBridge.Gateway.About
import ZigbeeBridge.Gateway.Group
import ZigbeeBridge.Gateway.Light
import ZigbeeBridge.Gateway.Listing
import ZigbeeBridge.Gateway.Reply
import ZigbeeBridge.Gateway.StateChange
import ZigbeeBridge.Url.Parser

/-!
The calls to a gateway. Every one of them is a single request below the token's part of the tree.
-/
namespace ZigbeeBridge.Gateway

open Data Dialogue

structure Client where
  base : Url
  token : String
  deriving DecidableEq, Repr

def dropSlashesEnd (s : String) : String :=
  String.ofList (s.toList.reverse.dropWhile (· = '/')).reverse

namespace Client

variable {α : Type}

/-- The URL of a resource, given its path below the token. -/
def url (client : Client) (path : String) : Except Error Url :=
  (Url.parse s!"{dropSlashesEnd client.base.text}/api/{client.token}/{path}").mapError .badUrl

def isHttp (url : Url) : Bool := url.scheme == "http" || url.scheme == "https"

def request (client : Client) (method : Method) (path : String) (body : Option String) :
    Except Error Request := do
  let url ← client.url path
  if isHttp url then .ok ⟨method, url, body⟩ else .error (.transport .notSendable)

def call (client : Client) (method : Method) (path : String) (body : Option String)
    (decode : Value → Except DecodeError α) : Attempt Error α :=
  match client.request method path body with
  | .error e => settle (.error e)
  | .ok request => ExceptT.mk (ask request fun answer => done (reply decode answer))

def get (client : Client) (path : String) (decode : Value → Except DecodeError α) :
    Attempt Error α :=
  client.call .get path none decode

/-- Sends a change; any body that reports no error will do for an answer. -/
def put (client : Client) (path : String) (change : StateChange) : Attempt Error Unit :=
  client.call .put path (some change.body) fun _ => .ok ()

/-- Goes on with what was fetched. -/
def thenDecode (fetched : Attempt Error Value) (decode : Value → Except Error α) :
    Attempt Error α := do
  let v ← fetched
  settle (decode v)

def getAbout (client : Client) : Attempt Error About := client.get "config" About.decode

def listing (client : Client) (collection : String) : Attempt Error (Entries Value) :=
  client.get collection Gateway.listing

def listLights (client : Client) : Attempt Error (List Summary) := do
  let entries ← client.listing "lights"
  settle (summaries entries)

def getLight (client : Client) (id : String) : Attempt Error Light :=
  thenDecode (client.get s!"lights/{id}" .ok) (Light.decode id)

def setLight (client : Client) (id : String) (change : StateChange) : Attempt Error Unit :=
  client.put s!"lights/{id}/state" change

def listGroups (client : Client) : Attempt Error (List Summary) := do
  let entries ← client.listing "groups"
  settle (summaries entries)

def getGroup (client : Client) (id : String) : Attempt Error Group :=
  thenDecode (client.get s!"groups/{id}" .ok) (Group.decode id)

def setGroup (client : Client) (id : String) (change : StateChange) : Attempt Error Unit :=
  client.put s!"groups/{id}/action" change

def listSensors (client : Client) : Attempt Error (List SensorInfo) := do
  let entries ← client.listing "sensors"
  settle (sensorInfos entries)

def getSensorDetail (client : Client) (id : String) : Attempt Error Value :=
  client.get s!"sensors/{id}" .ok

/-- The sensor; none of a type that is not recognized. -/
def getSensor (client : Client) (id : String) : Attempt Error (Option Sensor) :=
  thenDecode (client.getSensorDetail id) (Sensor.decode id)

end Client

end ZigbeeBridge.Gateway
