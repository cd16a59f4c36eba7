import ZigbeeBridge.Data.Entries
import ZigbeeBridge.Gateway.Exchange
import ZigbeeBridge.Text.Ascii
import ZigbeeBridge.Text.Blank
import ZigbeeBridge.Text.Bytes
import ZigbeeBridge.Text.Hex
import ZigbeeBridge.Text.Integer
import ZigbeeBridge.Url.Percent
import ZigbeeBridge.Wire.Base64

/-!
HTTP/1.1 on a connection that carries one request: its text, and the answer in the bytes that come
back.
-/
namespace ZigbeeBridge.Wire

open Data Gateway Text

def crlf : String := "\r\n"

def headText (lines : List String) : String :=
  String.join (lines.map (· ++ crlf)) ++ crlf

/-- The host with its port, where that is not the usual one. -/
def hostLine (url : Url) : String := "Host: " ++ url.hostText?.getD "" ++ url.portText

/-- What a request asks the host for. -/
def target (url : Url) : String :=
  let path := url.pathText
  (if path.isEmpty then "/" else path) ++ (url.query.map ("?" ++ ·)).getD ""

/-- The credentials of a URL go into a header. -/
def authorization (url : Url) : List String :=
  if url.credentials.isEmpty then []
  else
    let decoded (s : String) : List UInt8 := Url.decode s.toList
    let secret := decoded url.username ++ 0x3A :: decoded url.password
    ["Authorization: Basic " ++ String.ofList (base64 secret)]

def requestText (request : Request) : String :=
  let body := request.body.getD ""
  let about := if request.body.isSome
    then ["Content-Type: application/json", s!"Content-Length: {body.utf8ByteSize}"] else []
  let lines := [s!"{request.method.name} {target request.url} HTTP/1.1", hostLine request.url,
    "Accept: */*", "User-Agent: deconz-bridge/0.1.0", "Connection: close"]
  headText (lines ++ authorization request.url ++ about) ++ body

/-- Splits bytes at their first empty line. -/
def splitHead (seen : List Char) : List UInt8 → Option (List Char × List UInt8)
  | 13 :: 10 :: 13 :: 10 :: rest => some (seen.reverse, rest)
  | b :: rest => splitHead (Char.ofNat b.toNat :: seen) rest
  | [] => none

/-- Splits bytes at the end of their first line. -/
def splitLine (seen : List Char) : List UInt8 → Option (List Char × List UInt8)
  | 13 :: 10 :: rest => some (seen.reverse, rest)
  | b :: rest => splitLine (Char.ofNat b.toNat :: seen) rest
  | [] => none

/-- The status of an answer and its headers, whose names are in lower case. -/
structure Head where
  status : UInt16
  headers : Entries String

def header? (line : List Char) : Option (String × String) :=
  match line.dropWhile (· ≠ ':') with
  | _ :: value =>
    some (lowercase (String.ofList (line.takeWhile (· ≠ ':'))), String.ofList (trimChars value))
  | [] => none

def Head.ofText? (text : List Char) : Option Head := do
  let first :: rest := text.splitOn '\n' | none
  let _ :: status :: _ := (trimChars first).splitOn ' ' | none
  let code ← natBelow? 1000 (String.ofList status)
  some ⟨UInt16.ofNat code, rest.filterMap header?⟩

/-- The value of a header names a word, in any letter case. -/
def Head.names (head : Head) (header word : String) : Bool :=
  ((head.headers.get? header).getD "" |>.toList.splitOn ',').any fun part =>
    sameLetters word.toList (trimChars part)

/-- The chunks of a body put together; none while some are still to come. -/
def unchunk : Nat → List UInt8 → Option (List UInt8)
  | 0, _ => none
  | fuel + 1, bytes => do
    let (line, rest) ← splitLine [] bytes
    let size := (hexNumber 0 line).1
    if size = 0 then some []
    else if rest.length < size + 2 then none
    else some (rest.take size ++ (← unchunk fuel (rest.drop (size + 2))))

/-- Answers with these codes have no body. -/
def isBodiless (status : UInt16) : Bool := status < 200 || status == 204 || status == 304

/-- The body, as far as it is there: one that has not all come in is none when no more comes. -/
def Head.body? (head : Head) (ended : Bool) (bytes : List UInt8) : Option (Option (List UInt8)) :=
  let whole : Option (List UInt8) :=
    if isBodiless head.status then some []
    else if head.names "transfer-encoding" "chunked" then unchunk (bytes.length + 1) bytes
    else match (head.headers.get? "content-length").bind (natBelow? 0x10000000000000000 ·) with
      | some n => if n ≤ bytes.length then some (bytes.take n) else none
      | none => if ended then some bytes else none
  match whole with
  | some body => some (some body)
  | none => if ended then some none else none

/-- The answer in the bytes so far; none while more are needed. -/
def answer? (ended : Bool) (bytes : List UInt8) : Option Answer :=
  match splitHead [] bytes with
  | none => if ended then some .none else none
  | some (text, rest) =>
    match Head.ofText? text with
    | none => some .none
    | some head =>
      (head.body? ended rest).map fun body => .response head.status (body.map decodeBytes)

end ZigbeeBridge.Wire
