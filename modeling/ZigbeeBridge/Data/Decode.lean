import ZigbeeBridge.Data.Value
import ZigbeeBridge.Numeral.DoubleText
import ZigbeeBridge.Text.Quoted

/-!
Checking a value against the shape of a record. A record is an object, where unknown keys do not
matter and members are checked in the order in which they stand, or an array of its fields in
their own order. What passes is read off by `Record.text` and its kin, which then find what they
ask for.
-/
namespace ZigbeeBridge.Data

/-- What stands where something else was expected. -/
inductive Found where
  | null
  | bool (value : Bool)
  | integer (value : Int)
  | double (value : Numeral.Double)
  | text (value : String)
  | sequence
  | map
  deriving DecidableEq, Repr

def Found.of : Value → Found
  | .null => .null
  | .bool b => .bool b
  | .number (.integer n _) => .integer n
  | .number (.double d) => .double d
  | .string s => .text s
  | .array _ => .sequence
  | .object _ => .map

inductive DecodeError where
  | wrongType (found : Found) (expected : String)
  | wrongValue (found : Found) (expected : String)
  | tooFew (length : Nat) (expected : String)
  /-- Items are left over; some records tell how many there may be. -/
  | tooMany (length : Nat) (limit : Option Nat)
  | missingField (name : String)
  | repeatedField (name : String)
  | unknownVariant (name : String) (known : List String)
  | notAnId (found : Value)
  deriving Repr

/-- Alternatives in the words of a message. -/
def oneOf (names : List String) : String :=
  let ticked := names.map fun name => "`" ++ name ++ "`"
  match ticked with
  | [] => ""
  | [a] => a
  | [a, b] => s!"{a} or {b}"
  | _ => "one of " ++ ", ".intercalate ticked

/-- How a field may be left out: never, in an object only, or anywhere. -/
inductive Presence where
  | required
  | optional
  | defaulted
  deriving DecidableEq, Repr

abbrev Check := Value → Except DecodeError Unit

structure Field where
  name : String
  presence : Presence
  check : Check

structure Shape where
  name : String
  fields : List Field

namespace Check

def any : Check := fun _ => .ok ()

def text : Check
  | .string _ => .ok ()
  | v => .error (.wrongType (.of v) "a string")

def bool : Check
  | .bool _ => .ok ()
  | v => .error (.wrongType (.of v) "a boolean")

/-- An integer from `low` to `high`; the name stands for that range. -/
def integer (name : String) (low high : Int) : Check
  | .number (.integer n _) =>
    if low ≤ n ∧ n ≤ high then .ok () else .error (.wrongValue (.integer n) name)
  | v => .error (.wrongType (.of v) name)

def uint8 : Check := integer "u8" 0 0xFF

def uint16 : Check := integer "u16" 0 0xFFFF

def uint32 : Check := integer "u32" 0 0xFFFFFFFF

def uint64 : Check := integer "u64" 0 0xFFFFFFFFFFFFFFFF

def int64 : Check := integer "i64" (-0x8000000000000000) 0x7FFFFFFFFFFFFFFF

def orNull (check : Check) : Check
  | .null => .ok ()
  | v => check v

end Check

namespace Field

def required (name : String) (check : Check) : Field := ⟨name, .required, check⟩

/-- May be null, and left out of an object. -/
def optional (name : String) (check : Check) : Field := ⟨name, .optional, check.orNull⟩

/-- May be null or left out. -/
def maybe (name : String) (check : Check) : Field := ⟨name, .defaulted, check.orNull⟩

/-- May be left out but not null. -/
def defaulted (name : String) (check : Check) : Field := ⟨name, .defaulted, check⟩

end Field

def elementCount (n : Nat) : String := if n = 1 then "1 element" else s!"{n} elements"

/-- What there should be where items are left over. -/
def lessThan (limit : Option Nat) : String :=
  match limit with
  | none => "fewer elements in array"
  | some n => s!"{elementCount n} in sequence"

namespace Shape

def field? (shape : Shape) (name : String) : Option Field :=
  shape.fields.find? (·.name = name)

/-- Each member that is a field passes the check of the field. -/
def checkMembers (shape : Shape) : List (String × Value) → Except DecodeError Unit
  | [] => .ok ()
  | (key, v) :: rest => do
    match shape.field? key with
    | some field => field.check v
    | none => .ok ()
    checkMembers shape rest

/-- Each required field is there. -/
def checkPresence (members : Entries Value) : List Field → Except DecodeError Unit
  | [] => .ok ()
  | field :: rest =>
    if field.presence = .required ∧ (members.get? field.name).isNone then
      .error (.missingField field.name)
    else checkPresence members rest

/-- Pairs the fields with the elements of an array; `count` of them had their turn already. -/
def pairItems (shape : Shape) (count : Nat) :
    List Field → List Value → Except DecodeError (Entries Value)
  | [], [] => .ok []
  | [], extra => .error (.tooMany (count + extra.length) none)
  | field :: fields, [] =>
    if field.presence = .defaulted then pairItems shape (count + 1) fields []
    else .error (.tooFew count s!"struct {shape.name} with {elementCount shape.fields.length}")
  | field :: fields, v :: vs => do
    field.check v
    .ok ((field.name, v) :: (← pairItems shape (count + 1) fields vs))

/-- The members of a record, checked. -/
def read (shape : Shape) : Value → Except DecodeError (Entries Value)
  | .object members => do
    shape.checkMembers members
    checkPresence members shape.fields
    .ok members
  | .array items => shape.pairItems 0 shape.fields items
  | v => .error (.wrongType (.of v) s!"struct {shape.name}")

def check (shape : Shape) : Check := fun v => (shape.read v).map fun _ => ()

end Shape

namespace Entries

def text? (members : Entries Value) (key : String) : Option String :=
  match members.get? key with
  | some (.string s) => some s
  | _ => none

/-- The text of a field, empty where it has none. -/
def text (members : Entries Value) (key : String) : String := (members.text? key).getD ""

def bool? (members : Entries Value) (key : String) : Option Bool :=
  match members.get? key with
  | some (.bool b) => some b
  | _ => none

def integer? (members : Entries Value) (key : String) : Option Int :=
  match members.get? key with
  | some (.number (.integer n _)) => some n
  | _ => none

def uint8? (members : Entries Value) (key : String) : Option UInt8 :=
  (members.integer? key).map fun n => UInt8.ofNat n.toNat

def uint16? (members : Entries Value) (key : String) : Option UInt16 :=
  (members.integer? key).map fun n => UInt16.ofNat n.toNat

def uint32? (members : Entries Value) (key : String) : Option UInt32 :=
  (members.integer? key).map fun n => UInt32.ofNat n.toNat

def uint64? (members : Entries Value) (key : String) : Option UInt64 :=
  (members.integer? key).map fun n => UInt64.ofNat n.toNat

def int64 (members : Entries Value) (key : String) : Int64 :=
  Int64.ofInt ((members.integer? key).getD 0)

def value (members : Entries Value) (key : String) : Value := (members.get? key).getD .null

end Entries

end ZigbeeBridge.Data
