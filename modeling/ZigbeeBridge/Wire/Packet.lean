import ZigbeeBridge.Push.Channel
import ZigbeeBridge.Wire.Digest
import ZigbeeBridge.Wire.Http

/-!
A push connection in bytes: the handshake that turns an HTTP connection into one, and the packets
that go over it. A text may come in several packets; other packets may come between them.
-/
namespace ZigbeeBridge.Wire

open Push

/-- What the digest of every handshake is salted with. -/
def handshakeSalt : String := "258EAFA5-E914-47DA-95CA-C5AB0DC85B11"

def handshakeText (url : Url) (key : String) : String :=
  headText ([s!"GET {target url} HTTP/1.1", hostLine url, "Connection: Upgrade",
    "Upgrade: websocket", "Sec-WebSocket-Version: 13", s!"Sec-WebSocket-Key: {key}"] ++
    authorization url)

/-- The server agrees to the handshake. -/
def Head.agrees (head : Head) (key : String) : Bool :=
  let expected := String.ofList (base64 (digest (key ++ handshakeSalt).toUTF8.toList))
  head.status == 101 && head.names "upgrade" "websocket" && head.names "connection" "upgrade" &&
    head.headers.get? "sec-websocket-accept" == some expected

structure Packet where
  final : Bool
  code : Nat
  payload : List UInt8
  deriving Repr

namespace Packet

def continuation : Nat := 0

def text : Nat := 1

def binary : Nat := 2

def close : Nat := 8

def ping : Nat := 9

def pong : Nat := 10

def numberOf (bytes : List UInt8) : Nat := bytes.foldl (fun n b => 256 * n + b.toNat) 0

/-- The length of a payload, from the second byte of its packet on, and the rest. -/
def lengthOf (b : UInt8) (rest : List UInt8) : Option (Nat × List UInt8) :=
  let short := (b &&& 0x7F).toNat
  let width := if short = 126 then 2 else if short = 127 then 8 else 0
  if rest.length < width then none
  else some (if width = 0 then short else numberOf (rest.take width), rest.drop width)

/-- The packet at the front and the rest; none while it has not all come in. -/
def take? : List UInt8 → Option (Packet × List UInt8)
  | a :: b :: rest => do
    let (length, rest) ← lengthOf b rest
    if rest.length < length then none
    else some (⟨a ≥ 0x80, (a &&& 0x7F).toNat, rest.take length⟩, rest.drop length)
  | _ => none

def lengthBytes (length : Nat) : List UInt8 :=
  if length < 126 then [UInt8.ofNat (0x80 + length)]
  else if length < 0x10000 then 0xFE :: bigEndian 2 length
  else 0xFF :: bigEndian 8 length

/-- The packet as a client sends it, under a mask of four bytes. -/
def toBytes (p : Packet) (mask : List UInt8) : List UInt8 :=
  let masked := p.payload.mapIdx fun i b => b ^^^ mask.getD (i % 4) 0
  UInt8.ofNat (0x80 + p.code) :: (lengthBytes p.payload.length ++ mask ++ masked)

end Packet

/-- What comes in over a push connection; the payload of a ping is wanted back. -/
inductive Arrival where
  | frame (frame : Frame)
  | ping (payload : List UInt8)
  | ending (ending : Ending)
  deriving Repr

/-- Bytes that make no packet yet, and the packets so far of a text that has more. -/
structure Inbox where
  bytes : List UInt8
  begun : Option (Nat × List UInt8)

namespace Inbox

def empty : Inbox := ⟨[], none⟩

def utf8? (bytes : List UInt8) : Option String := String.fromUTF8? ⟨bytes.toArray⟩

def failure (reason : String) : Arrival := .ending (.failure reason)

def message (code : Nat) (payload : List UInt8) : Arrival :=
  if code = Packet.text then
    match utf8? payload with
    | some s => .frame (.text s)
    | none => failure "UTF-8 encoding error"
  else .frame (.binary payload)

def closing : List UInt8 → Arrival
  | [] => .ending (.closeFrame none)
  | [_] => failure "WebSocket protocol error: Invalid close sequence"
  | a :: b :: reason =>
    match utf8? reason with
    | some s => .ending (.closeFrame (some (UInt16.ofNat (256 * a.toNat + b.toNat), s)))
    | none => failure "UTF-8 encoding error"

/-- A packet of a text or of something binary. -/
def takeData (inbox : Inbox) (p : Packet) : Option Arrival × Inbox :=
  match inbox.begun with
  | some (code, begun) =>
    if p.code ≠ Packet.continuation then
      (some (failure "WebSocket protocol error: Expected a continuation"), inbox)
    else if p.final then (some (message code (begun ++ p.payload)), { inbox with begun := none })
    else (none, { inbox with begun := some (code, begun ++ p.payload) })
  | none =>
    if p.code = Packet.continuation then
      (some (failure "WebSocket protocol error: Nothing to continue"), inbox)
    else if p.final then (some (message p.code p.payload), inbox)
    else (none, { inbox with begun := some (p.code, p.payload) })

def takePacket (inbox : Inbox) (p : Packet) : Option Arrival × Inbox :=
  if p.code ≤ Packet.binary then inbox.takeData p
  else if p.code = Packet.close then (some (closing p.payload), inbox)
  else if p.code = Packet.ping then (some (.ping p.payload), inbox)
  else if p.code = Packet.pong then
    (some (.frame (.pong (Text.decodeBytes p.payload))), inbox)
  else (some (failure "WebSocket protocol error: Unknown packet"), inbox)

def takeAll : Nat → Inbox → List Arrival × Inbox
  | 0, inbox => ([], inbox)
  | fuel + 1, inbox =>
    match Packet.take? inbox.bytes with
    | none => ([], inbox)
    | some (p, rest) =>
      let (arrival, inbox) := { inbox with bytes := rest }.takePacket p
      let (arrivals, inbox) := takeAll fuel inbox
      (arrival.toList ++ arrivals, inbox)

/-- What the bytes bring that have come in. -/
def receive (inbox : Inbox) (bytes : List UInt8) : List Arrival × Inbox :=
  let all := inbox.bytes ++ bytes
  takeAll all.length { inbox with bytes := all }

end Inbox

end ZigbeeBridge.Wire
