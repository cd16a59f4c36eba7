import ZigbeeBridge.Config.Error
import ZigbeeBridge.Config.Layer
import ZigbeeBridge.Numeral.DoubleText
import ZigbeeBridge.Text.Position
import ZigbeeBridge.Text.Quoted
import ZigbeeBridge.Toml.Parser

/-!
Loading a configuration from the text of its file and from the environment. An error tells the key
it is about and the layer that the value came from.
-/
namespace ZigbeeBridge

open Data Text

/-- An error at the value at the end of a path. -/
structure LoadFlaw where
  path : List String
  error : DecodeError
  deriving Repr

namespace Load

def located {α : Type} (path : List String) (result : Except DecodeError α) : Except LoadFlaw α :=
  result.mapError (⟨path, ·⟩)

def checkMembers (shape : Shape) (path : List String) :
    List (String × Value) → Except LoadFlaw Unit
  | [] => .ok ()
  | (key, v) :: rest => do
    match shape.field? key with
    | some field => located (path ++ [key]) (field.check v)
    | none => .ok ()
    checkMembers shape path rest

/-- The members of a record; items that are left over do not matter. -/
def record (shape : Shape) (path : List String) : Value → Except LoadFlaw (Entries Value)
  | .object members => do
    checkMembers shape path members
    located path (Shape.checkPresence members shape.fields)
    .ok members
  | .array items => located path (shape.read (.array (items.take shape.fields.length)))
  | v => located path (shape.read v)

def profiles (path : List String) : List (String × Value) → Except LoadFlaw (Entries Profile)
  | [] => .ok []
  | (name, v) :: rest => do
    let ms ← record (Profile.shape .named) (path ++ [name]) v
    .ok ((name, Profile.ofMembers .named ms) :: (← profiles path rest))

def profileMap (path : List String) : Value → Except LoadFlaw (Entries Profile)
  | .object members => profiles path members
  | v => located path (.error (.wrongType (.of v) "a map"))

/-- The configuration of all layers together; its keys are checked in increasing order. -/
def config (v : Value) : Except LoadFlaw Config := do
  let name := (v.member? "default_profile").getD .null
  located ["default_profile"] (Check.text.orNull name)
  let defaults ← match v.member? "defaults" with
    | some d => record Defaults.shape ["defaults"] d
    | none => .ok []
  let profiles ← match v.member? "profiles" with
    | some p => profileMap ["profiles"] p
    | none => .ok []
  .ok ⟨v.members.text? "default_profile", .ofMembers defaults, profiles⟩

def describe (source : Source) : Found → String
  | .null => "unit"
  | .bool b => s!"bool {b}"
  | .integer n =>
    if source = .environment ∧ n ≥ 0 then s!"unsigned int `{n}`" else s!"signed int `{n}`"
  | .double d => s!"float `{d.plainText}`"
  | .text s => s!"string {quoted s}"
  | .sequence => "sequence"
  | .map => "map"

def wording (source : Source) : DecodeError → String
  | .wrongType found expected =>
    s!"invalid type: found {describe source found}, expected {expected}"
  | .wrongValue found expected => s!"invalid value {describe source found}, expected {expected}"
  | .tooFew n expected => s!"invalid length {n}, expected {expected}"
  | .tooMany n limit => s!"invalid length {n}, expected {lessThan limit}"
  | .missingField name => s!"missing field `{name}`"
  | .repeatedField name => s!"duplicate field `{name}`"
  | .unknownVariant name known =>
    s!"unknown variant: found `{name}`, expected `{oneOf known}`"
  | .notAnId _ => "expected string id"

def place (source : Source) (path : List String) : String :=
  match source with
  | .builtIn => ""
  | .file shown =>
    let key := ".".intercalate ("default" :: path)
    s!" for key {quoted key} in {shown} TOML file"
  | .environment =>
    let key := ".".intercalate (path.map uppercase)
    s!" for key {quoted key} in `DECONZ_` environment variable(s)"

def message (layers : List Layer) (flaw : LoadFlaw) : String :=
  let source := origin layers flaw.path
  wording source flaw.error ++ place source flaw.path

def blanks (n : Nat) : String := String.ofList (List.replicate n ' ')

/-- The line of a text in which the text does not go on as it should, with a mark below. -/
def excerpt (text : String) (flaw : Toml.Flaw) : String :=
  let cs := text.toList
  let p := Position.start.advance (byteLength cs - flaw.left) cs
  let line := String.ofList ((cs.splitOn '\n').getD (p.line - 1) [])
  let number := toString p.line
  let margin := blanks number.length
  s!"TOML parse error at line {p.line}, column {p.column + 1}\n{margin} |\n{number} | {line}\n" ++
    s!"{margin} | {blanks p.column}^\n{flaw.message}\n"

def fileLayer (shown text : String) : Except ConfigError Layer :=
  match Toml.parse text with
  | .ok members => .ok ⟨.file shown, sorted (.object members)⟩
  | .error flaw => .error (.notToml s!"{excerpt text flaw} in {shown} TOML file")

end Load

/-- Loads a configuration; without a file only the environment counts. -/
def loadConfig (shown : String) (file : Option String) (environment : Entries String) :
    Except ConfigError Config := do
  let fileLayers ← match file with
    | some text => do pure [← Load.fileLayer shown text]
    | none => pure []
  let layers := Layer.builtIn :: fileLayers ++ [Layer.ofVariables environment]
  (Load.config (merged layers)).mapError fun flaw => .unreadable (Load.message layers flaw)

end ZigbeeBridge
