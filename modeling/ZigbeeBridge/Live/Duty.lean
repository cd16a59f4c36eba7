import Std.Async.Signal
import ZigbeeBridge.Cli.Errand
import ZigbeeBridge.Live.Connection
import ZigbeeBridge.Push.Message

/-!
A bridge on duty: it beats at even intervals and prints every event, until it is interrupted. While
it waits for anything, it hears what comes in over its push connection.
-/
namespace ZigbeeBridge.Live

open Std.Async Bridge Bus Gateway Wire

/-- The push connection, as far as it has come. -/
inductive Channel where
  | down
  | opening (attempt : AsyncTask (Option (Connection × List UInt8)))
  | up (connection : Connection) (inbox : Inbox)

structure Duty where
  watch : Cli.Watch
  interrupt : AsyncTask Int
  channel : IO.Ref Channel

/-- What happens first while something is waited for. -/
inductive Happening (α : Type) where
  | done (result : α)
  | interrupted
  | opened (connection : Option (Connection × List UInt8))
  | arrived (bytes : List UInt8)
  | lost

def Channel.happenings {α : Type} : Channel → Array (Selectable (Happening α))
  | down => #[]
  | opening attempt => #[.case (ended attempt) fun result => pure (.opened result)]
  | up connection _ => #[.case (connection.recvSelector chunkSize) fun
      | some bytes => pure (.arrived bytes.toList)
      | none => pure .lost]

namespace Duty

def isOver (duty : Duty) : Async Bool := IO.hasFinished duty.interrupt

/-- Prints an event, unless the duty is over. -/
def print (duty : Duty) (event : Event) : Async Unit := do
  unless ← duty.isOver do
    let stdout ← IO.getStdout
    stdout.putStr (duty.watch.line event)
    stdout.flush

/-- Hears what arrived; nothing counts that comes after the end of the connection. -/
def hearAll (duty : Duty) (connection : Connection) : List Arrival → Async Unit
  | [] => pure ()
  | .frame frame :: rest => do
    if let some message := frame.message? then duty.print (Push.flatten message)
    duty.hearAll connection rest
  | .ping payload :: rest => do
    sendPacket connection ⟨true, Packet.pong, payload⟩
    duty.hearAll connection rest
  | .ending _ :: _ => duty.channel.set .down

def hear (duty : Duty) (connection : Connection) (inbox : Inbox) (bytes : List UInt8) :
    Async Unit := do
  let (arrivals, inbox) := inbox.receive bytes
  duty.channel.set (.up connection inbox)
  duty.hearAll connection arrivals

def heed {α : Type} (duty : Duty) : Happening α → Async Unit
  | .opened (some (connection, bytes)) => duty.hear connection .empty bytes
  | .arrived bytes => do
    if let .up connection inbox ← duty.channel.get then duty.hear connection inbox bytes
  | .opened none | .lost => duty.channel.set .down
  | .done _ | .interrupted => pure ()

/-- The result of a task, which must not fail; none if the duty is over before. -/
partial def await {α : Type} (duty : Duty) (task : AsyncTask α) : Async (Option α) := do
  let always : Array (Selectable (Happening α)) :=
    #[.case (ended duty.interrupt) fun _ => pure .interrupted,
      .case (ended task) fun result => pure (.done result)]
  let happening ← try Selectable.one (always ++ (← duty.channel.get).happenings)
    catch _ => pure .lost
  match happening with
  | .done result => pure (some result)
  | .interrupted => pure none
  | other =>
    duty.heed other
    duty.await task

def sendRequest (duty : Duty) (request : Request) : Async Answer := do
  if ← duty.isOver then pure .none
  else pure ((← duty.await (← async (send duty.watch.settings.timeoutMs request))).getD .none)

def pause (duty : Duty) (ms : Nat) : Async Unit := do
  let _ ← duty.await (← async (pausing ms))

def operate (duty : Duty) (operation : Operation Unit) (state : State) : Async State := do
  let (_, state) ← (operation.run state).perform duty.sendRequest duty.print duty.pause
  pure state

/-- Starts to open the push connection that a bridge wants. -/
def openChannel (duty : Duty) (state : State) : Async Unit := do
  if let some url := state.push then duty.channel.set (.opening (← async (openPush url)))

/-- Beats when a beat is due, and at once when it is overdue. -/
partial def keep (duty : Duty) (due : Nat) (state : State) : Async State := do
  let state ← match ← duty.channel.get with
    | .down => duty.operate Operation.pushEnded state
    | _ => pure state
  match ← duty.await (← async (pausing (due - (← IO.monoMsNow)))) with
  | some _ =>
    duty.keep (due + 1000 * duty.watch.order.heartbeatSeconds.toNat)
      (← duty.operate Cli.Watch.beat state)
  | none => pure state

def leave (duty : Duty) (state : State) : Async Unit := do
  let _ ← duty.operate Operation.shutDown state
  if let .up connection _ ← duty.channel.get then
    sendPacket connection ⟨true, Packet.close, bigEndian 2 Push.normalClosure.toNat⟩

def run (duty : Duty) : Async Unit := do
  let state ← duty.operate duty.watch.connect (.start duty.watch.settings)
  duty.openChannel state
  let due := (← IO.monoMsNow) + 1000 * duty.watch.order.heartbeatSeconds.toNat
  let state ← duty.operate duty.watch.firstReport state
  duty.leave (← duty.keep due state)

end Duty

/-- Goes on duty until an interrupt. -/
def watch (watch : Cli.Watch) : Async Unit := do
  let interrupt ← (← Signal.Waiter.mk .sigint false).wait
  Duty.run ⟨watch, interrupt, ← IO.mkRef .down⟩

end ZigbeeBridge.Live
