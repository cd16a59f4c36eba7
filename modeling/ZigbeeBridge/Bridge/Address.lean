import ZigbeeBridge.Bridge.Error
import ZigbeeBridge.Text.Ascii
import ZigbeeBridge.Text.Blank
import ZigbeeBridge.Text.Quoted
import ZigbeeBridge.Text.Utf8
import ZigbeeBridge.Url.Parser
import ZigbeeBridge.Url.Printer

/-!
Addresses of gateways. An address is a URL or just a host with an optional port, which then stands
for `http`.
-/
namespace ZigbeeBridge.Bridge

open Text

def plainScheme : List Char := "http://".toList

def secureScheme : List Char := "https://".toList

def hasScheme (cs : List Char) : Bool := beginsWith plainScheme cs || beginsWith secureScheme cs

def normalizeChars (cs : List Char) : List Char :=
  let trimmed := trimChars cs
  if hasScheme trimmed then trimmed else plainScheme ++ trimmed

def normalizeAddress (address : String) : String :=
  String.ofList (normalizeChars address.toList)

def baseUrl (address : String) : Except Error Url :=
  let normalized := normalizeAddress address
  (Url.parse normalized).mapError fun flaw =>
    .config s!"invalid bridge address {quoted normalized}: {flaw.message}"

/-- Where the gateway pushes changes: the same host, secure if the base is, at a port. -/
def pushUrl (base : Url) (port : UInt16) : Except Error Url :=
  match base.hostText? with
  | none => .error (.config s!"bridge address {base.text} has no host")
  | some host =>
    let scheme := if base.scheme = "https" then "wss" else "ws"
    (Url.parse s!"{scheme}://{host}:{port}").mapError fun flaw =>
      .config s!"invalid push URL: {flaw.message}"

/-- The scheme of a location takes at most eight bytes, and a host at least one. -/
def locationStart : Nat := 9

/-- A location without the path behind its host; one that has none stays as it is. -/
def reduceLocation (location : String) : String :=
  let cs := location.toList
  match dropBytes? locationStart cs with
  | some rest =>
    if rest.contains '/' then
      String.ofList (cs.take (cs.length - rest.length) ++ rest.takeWhile (· ≠ '/'))
    else location
  | none => location

end ZigbeeBridge.Bridge
