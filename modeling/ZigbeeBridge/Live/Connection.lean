import Std.Async.DNS
import Std.Async.TCP
import Std.Async.Timer
import ZigbeeBridge.Wire.Packet

/-!
Connections to a host, and what goes over them. They are all in plain text: where a URL wants one
that is not, nothing comes of it.
-/
namespace ZigbeeBridge.Live

open Std.Async Gateway Wire

abbrev Connection := TCP.Socket.Client

/-- Ready once the task is at its end. -/
def ended {α : Type} (task : AsyncTask α) : Selector α where
  tryFn := do if ← IO.hasFinished task then some <$> await task else pure none
  registerFn waiter := do
    BaseIO.chainTask task fun result =>
      waiter.race (pure ()) fun promise => promise.resolve result
  unregisterFn := pure ()

/-- The longest wait that is kept to. -/
def longestMs : Nat := 0xFFFFFFFFFFFF

def pausing (ms : Nat) : Async Unit :=
  Std.Async.sleep (.ofNat (min ms longestMs))

def chunkSize : UInt64 := 0x10000

def endpoint (port : UInt16) : Std.Net.IPAddr → Std.Net.SocketAddress
  | .v4 address => .v4 ⟨address, port⟩
  | .v6 address => .v6 ⟨address, port⟩

/-- Connects to the first of the addresses that takes a connection. -/
def dialFirst (port : UInt16) : List Std.Net.IPAddr → Async Connection
  | [] => throw (.userError "no address")
  | address :: rest => do
    let connection ← TCP.Socket.Client.mk
    try
      connection.connect (endpoint port address)
      pure connection
    catch _ => dialFirst port rest

/-- The host as a resolver wants it. -/
def hostName (url : Url) : String :=
  String.ofList ((url.hostText?.getD "").toList.filter fun c => c != '[' && c != ']')

def dial (url : Url) : Async Connection := do
  let addresses ← DNS.getAddrInfo (hostName url) ""
  dialFirst ((url.port.or (Url.defaultPort url.scheme)).getD 0) addresses.toList

/-- The next bytes; none when there are no more. -/
def nextBytes (connection : Connection) : Async (Option ByteArray) := do
  try connection.recv? chunkSize catch _ => pure none

def write (connection : Connection) (bytes : List UInt8) : Async Unit :=
  connection.send ⟨bytes.toArray⟩

partial def readAnswer (connection : Connection) (seen : ByteArray) : Async Answer := do
  match ← nextBytes connection with
  | none => pure ((answer? true seen.toList).getD .none)
  | some bytes =>
    match answer? false (seen ++ bytes).toList with
    | some answer => pure answer
    | none => readAnswer connection (seen ++ bytes)

def exchange (request : Request) : Async Answer := do
  if request.url.scheme ≠ "http" then pure .none
  else
    try
      let connection ← dial request.url
      write connection (requestText request).toUTF8.toList
      readAnswer connection .empty
    catch _ => pure .none

/-- Sends a request, and waits no longer than so for the answer. -/
def send (timeoutMs : Nat) (request : Request) : Async Answer := do
  let exchanging ← async (exchange request)
  let clock ← Selector.sleep (.ofNat (min timeoutMs longestMs))
  Selectable.one
    #[.case (ended exchanging) pure, .case clock fun _ => pure .timeout]

/-- Reads up to the end of the answer to a handshake; the bytes after it belong to packets. -/
partial def readHandshake (connection : Connection) (seen : ByteArray) :
    Async (Option (Head × List UInt8)) := do
  match splitHead [] seen.toList with
  | some (text, rest) => pure ((Head.ofText? text).map (·, rest))
  | none =>
    match ← nextBytes connection with
    | none => pure none
    | some bytes => readHandshake connection (seen ++ bytes)

/-- Opens a push connection; what has come in already waits in the inbox. -/
def openPush (url : Url) : Async (Option (Connection × List UInt8)) := do
  if url.scheme ≠ "ws" then pure none
  else
    try
      let connection ← dial url
      let key := String.ofList (base64 (← IO.getRandomBytes 16).toList)
      write connection (handshakeText url key).toUTF8.toList
      match ← readHandshake connection .empty with
      | some (head, rest) => pure (if head.agrees key then some (connection, rest) else none)
      | none => pure none
    catch _ => pure none

def sendPacket (connection : Connection) (packet : Packet) : Async Unit := do
  let mask ← IO.getRandomBytes 4
  try write connection (packet.toBytes mask.toList) catch _ => pure ()

end ZigbeeBridge.Live
