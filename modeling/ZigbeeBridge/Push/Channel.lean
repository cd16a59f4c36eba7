import ZigbeeBridge.Push.Frame
import ZigbeeBridge.Url.Printer

/-!
The life of one push connection, as those hear of it who listen: it opens or not, brings messages,
and is closed once, last of all. A frame that is no message leaves no trace.
-/
namespace ZigbeeBridge.Push

inductive Notice where
  | opened
  | message (message : Message)
  | closed (code : UInt16) (reason : String) (remote : Bool)
  deriving Repr

inductive Frame where
  | text (text : String)
  | binary (bytes : List UInt8)
  | ping (payload : String)
  | pong (payload : String)
  deriving DecidableEq, Repr

/-- How a connection that was open comes to its end. -/
inductive Ending where
  | closeFrame (payload : Option (UInt16 × String))
  | failure (reason : String)
  | endOfStream
  | cancelled
  deriving DecidableEq, Repr

/-- What becomes of the attempt to connect. -/
inductive Attempt where
  | cancelled
  | failed (reason : String)
  | opened (frames : List Frame) (ending : Ending)
  deriving DecidableEq, Repr

def normalClosure : UInt16 := 1000

def noStatus : UInt16 := 1005

def abnormalClosure : UInt16 := 1006

def Ending.notice : Ending → Notice
  | closeFrame (some (code, reason)) => .closed code reason true
  | closeFrame none => .closed noStatus "" true
  | failure reason => .closed abnormalClosure reason true
  | endOfStream => .closed abnormalClosure "stream ended" true
  | cancelled => .closed normalClosure "closed by client" false

def Frame.message? : Frame → Option Message
  | text s => (parse s).toOption
  | _ => none

def Attempt.notices : Attempt → List Notice
  | cancelled => [.closed normalClosure "cancelled before open" false]
  | failed reason => [.closed abnormalClosure (Gateway.Error.pushFailed reason).message false]
  | opened frames ending =>
    .opened :: (frames.filterMap (·.message?.map .message) ++ [ending.notice])

/-- The port that a connection goes to. -/
def port? (url : Url) : Option UInt16 :=
  url.port.or (if url.scheme = "ws" ∨ url.scheme = "wss" then Url.defaultPort url.scheme else none)

/-- Why a URL cannot be connected to at all. -/
def refusal? (url : Url) : Option String :=
  if url.hostText?.isNone ∧ url.pathText.toList.contains '/' then some "invalid format"
  else if url.hostText?.isNone ∨ (port? url).isNone then
    some "URL error: URL scheme not supported"
  else none

end ZigbeeBridge.Push
