import ZigbeeBridge.Bus.Event

/-!
What reaches a subscriber who looks only now and then: of the events since the last look the latest
are there, as many as the buffer holds, and the number of those before them.
-/
namespace ZigbeeBridge.Bus

def bufferSize : Nat := 256

structure Received where
  missed : Nat
  events : List Event
  deriving DecidableEq, Repr

def received (published : List Event) : Received :=
  let missed := published.length - bufferSize
  ⟨missed, published.drop missed⟩

end ZigbeeBridge.Bus
