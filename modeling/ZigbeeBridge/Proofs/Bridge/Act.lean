import ZigbeeBridge.Proofs.Bridge.Moment

/-!
What can be done to a bridge, and runs of it: any number of acts, one after the other, against a
gateway that may answer each request as it likes.
-/
namespace ZigbeeBridge.Bridge

open Bus Dialogue

inductive Act where
  | connect
  | reconnect
  | probe
  | disconnect
  | shutDown
  | handle (message : Message)
  | execute (command : Command)
  | reportAll (sensors : Bool)
  | setAddress (address : String)
  | setRefreshInterval (interval : UInt32)
  | pushReceived (text : String)
  | pushEnded
  | submit (message : Message)
  | dispatch
  deriving DecidableEq, Repr

/-- What an act answers to whoever asked for it. -/
inductive Reply where
  | nothing
  | health (health : Health)
  | consumed (ours : Bool)
  | refreshed (result : Except Error Report)
  | queued (result : Except Error Unit)

namespace Act

/-- To reconnect is to connect once more. -/
def operation : Act → Operation Reply
  | connect => .health <$> Operation.connect
  | reconnect => .health <$> Operation.connect
  | probe => .health <$> Operation.probe
  | disconnect => (fun _ => .nothing) <$> Operation.disconnect
  | shutDown => (fun _ => .nothing) <$> Operation.shutDown
  | handle message => .consumed <$> Operation.handle message
  | execute command => (fun _ => .nothing) <$> Operation.execute command
  | reportAll sensors => .refreshed <$> Operation.reportAll sensors
  | setAddress address => (fun _ => .nothing) <$> Operation.setAddress address
  | setRefreshInterval interval => (fun _ => .nothing) <$> Operation.setRefreshInterval interval
  | pushReceived text => (fun _ => .nothing) <$> Operation.pushReceived text
  | pushEnded => (fun _ => .nothing) <$> Operation.pushEnded
  | submit message => .queued <$> Operation.submit message
  | dispatch => (fun _ => .nothing) <$> Operation.dispatch

def step (gateway : Behaviour) (m : Moment) (act : Act) : Moment :=
  (act.operation.enact gateway m).2

end Act

def Moment.run (gateway : Behaviour) (m : Moment) (acts : List Act) : Moment :=
  acts.foldl (Act.step gateway) m

def Moment.reached (gateway : Behaviour) (settings : Settings) (acts : List Act) : Moment :=
  (Moment.start settings).run gateway acts

@[simp] theorem Moment.run_nil (gateway : Behaviour) (m : Moment) : m.run gateway [] = m := rfl

@[simp] theorem Moment.run_cons (gateway : Behaviour) (m : Moment) (act : Act)
    (acts : List Act) : m.run gateway (act :: acts) = (act.step gateway m).run gateway acts := rfl

end ZigbeeBridge.Bridge
