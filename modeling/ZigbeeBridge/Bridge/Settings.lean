import ZigbeeBridge.Data.Value

/-!
What a bridge is told about its gateway and about its manners.
-/
namespace ZigbeeBridge.Bridge

/-- What becomes of a refresh when one entity cannot be fetched. -/
inductive ItemFailure where
  | abort
  | isolate
  deriving DecidableEq, Repr

namespace ItemFailure

def name : ItemFailure → String
  | abort => "abort"
  | isolate => "isolate"

def all : List ItemFailure := [abort, isolate]

def ofName? (name : String) : Option ItemFailure := all.find? (·.name = name)

end ItemFailure

structure Settings where
  address : String
  token : String
  identity : String
  /-- Heartbeats that pass between two refreshes. -/
  refreshInterval : UInt32
  timeoutMs : Nat
  spacingMs : Nat
  pushEnabled : Bool
  pushPort : Option UInt16
  itemFailure : ItemFailure
  acceptAnyCertificate : Bool
  deriving DecidableEq, Repr

end ZigbeeBridge.Bridge
