import ZigbeeBridge.Config.Profile
import ZigbeeBridge.Config.Variable

/-!
The layers of a configuration: what goes without saying, the file, the environment. A later layer
goes before an earlier one, key by key.
-/
namespace ZigbeeBridge

open Data

mutual

/-- The same value with the keys of all objects in increasing order. -/
def sorted : Value → Value
  | .object members => .object (sortedMembers members)
  | v => v

def sortedMembers : List (String × Value) → Entries Value
  | [] => []
  | (key, v) :: rest => Entries.putSorted (sortedMembers rest) key (sorted v)

end

mutual

/-- Objects are merged key by key; anything else gives way to what comes later. -/
def overlay (below : Value) : Value → Value
  | .object members =>
    match below with
    | .object base => .object (overlayMembers base members)
    | _ => sorted (.object members)
  | v => v

def overlayMembers (base : Entries Value) : List (String × Value) → Entries Value
  | [] => base
  | (key, v) :: rest =>
    let merged := match Entries.get? base key with
      | some below => overlay below v
      | none => sorted v
    overlayMembers (Entries.putSorted base key merged) rest

end

inductive Source where
  | builtIn
  | file (shown : String)
  | environment
  deriving DecidableEq, Repr

structure Layer where
  source : Source
  content : Value

namespace Layer

def builtIn : Layer := ⟨.builtIn, sorted Config.usual.value⟩

def ofVariables (environment : Entries String) : Layer :=
  let nested := environment.filterMap fun entry =>
    (Variable.path? entry.1).map fun path => Variable.nest path (Variable.ofText entry.2)
  ⟨.environment, nested.foldl overlay (.object [])⟩

def valueAt? : Value → List String → Option Value
  | v, [] => some v
  | v, key :: path => (v.member? key).bind (valueAt? · path)

end Layer

/-- All layers, merged. -/
def merged (layers : List Layer) : Value :=
  layers.foldl (fun below layer => overlay below layer.content) (.object [])

/-- The layer that has the last say about a path. -/
def origin (layers : List Layer) (path : List String) : Source :=
  let holding := layers.filter fun layer => (Layer.valueAt? layer.content path).isSome
  (holding.getLast?.map (·.source)).getD .builtIn

end ZigbeeBridge
