import ZigbeeBridge.Url.Ipv6

/-!
Writing a URL.
-/
namespace ZigbeeBridge

def Host.text : Host → String
  | .domain name => name
  | .ipv4 address => Url.Ipv4.text address
  | .ipv6 pieces => "[" ++ Url.Ipv6.text pieces ++ "]"

namespace Url

/-- The host of a URL that names one. -/
def hostText? (url : Url) : Option String := (url.host.map Host.text).filter (· ≠ "")

def credentials (url : Url) : String :=
  if url.username = "" ∧ url.password = "" then ""
  else url.username ++ (if url.password = "" then "" else ":" ++ url.password) ++ "@"

def portText (url : Url) : String := (url.port.map fun p => s!":{p}").getD ""

def authority (url : Url) : String :=
  match url.host with
  | some host => "//" ++ url.credentials ++ host.text ++ url.portText
  | none => ""

def pathText (url : Url) : String :=
  match url.path with
  | .whole text => text
  | .segments list => String.join (list.map ("/" ++ ·))

/-- Keeps a path that begins with two slashes from being read as a host. -/
def guard (url : Url) : String :=
  match url.host, url.path with
  | none, .segments ("" :: _ :: _) => "/."
  | _, _ => ""

def text (url : Url) : String :=
  url.scheme ++ ":" ++ url.authority ++ url.guard ++ url.pathText ++
    (url.query.map ("?" ++ ·)).getD "" ++ (url.fragment.map ("#" ++ ·)).getD ""

/-- The same place without credentials and fragment. -/
def bare (url : Url) : Url := { url with username := "", password := "", fragment := none }

end Url

end ZigbeeBridge
