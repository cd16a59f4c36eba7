import ZigbeeBridge.Data.Entries
import ZigbeeBridge.Numeral.Double

/-!
Documents: what a JSON body, a configuration file or an environment variable holds once it is
read. Integers are exact within 64 bits, signed or not; any other number is a double.
-/
namespace ZigbeeBridge.Data

open Numeral (Double)

inductive Number where
  | integer (value : Int) (fits : -0x8000000000000000 ≤ value ∧ value < 0x10000000000000000)
  | double (value : Double)
  deriving DecidableEq, Repr

def Number.ofInt? (n : Int) : Option Number :=
  if h : -0x8000000000000000 ≤ n ∧ n < 0x10000000000000000 then some (.integer n h) else none

inductive Value where
  | null
  | bool (value : Bool)
  | number (value : Number)
  | string (value : String)
  | array (items : List Value)
  | object (members : List (String × Value))
  deriving Repr, Inhabited

namespace Value

def nat (n : Nat) (h : n < 0x10000000000000000 := by decide) : Value :=
  .number (.integer n ⟨by omega, by omega⟩)

def uint8 (n : UInt8) : Value := nat n.toNat (by have := n.toNat_lt; omega)

def uint16 (n : UInt16) : Value := nat n.toNat (by have := n.toNat_lt; omega)

def uint32 (n : UInt32) : Value := nat n.toNat (by have := n.toNat_lt; omega)

def uint64 (n : UInt64) : Value := nat n.toNat n.toNat_lt

def int64 (n : Int64) : Value :=
  .number (.integer n.toInt ⟨Int64.le_toInt n, by have := Int64.toInt_lt n; omega⟩)

def ofOption {α : Type} (encode : α → Value) : Option α → Value
  | none => .null
  | some a => encode a

def members : Value → Entries Value
  | .object ms => ms
  | _ => []

def items : Value → List Value
  | .array vs => vs
  | _ => []

def member? (v : Value) (key : String) : Option Value := v.members.get? key

end Value

end ZigbeeBridge.Data
