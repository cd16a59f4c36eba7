import ZigbeeBridge.Text.Hex

/-!
A double is kept as its 64 bits, so that two of them are equal exactly when they are written the
same. A finite one is read as sign, significand and binary exponent.
-/
namespace ZigbeeBridge.Numeral

structure Double where
  bits : UInt64
  deriving DecidableEq, Repr, Inhabited

namespace Double

def ofFloat (x : Float) : Double := ⟨x.toBits⟩

def toFloat (d : Double) : Float := Float.ofBits d.bits

def negative (d : Double) : Bool := d.bits.toNat ≥ 0x8000000000000000

def exponentField (d : Double) : Nat := d.bits.toNat / 0x10000000000000 % 0x800

def fractionField (d : Double) : Nat := d.bits.toNat % 0x10000000000000

def isFinite (d : Double) : Bool := d.exponentField != 2047

def isNaN (d : Double) : Bool := d.exponentField == 2047 && d.fractionField != 0

/-- The significand `m` and exponent `q` of a finite double of size `m * 2 ^ q`. -/
def parts (d : Double) : Nat × Int :=
  if d.exponentField = 0 then (d.fractionField, -1074)
  else (0x10000000000000 + d.fractionField, (d.exponentField : Int) - 1075)

/-- The whole part, dropped toward zero and clamped to the signed 64-bit range. -/
def truncate (d : Double) : Int :=
  if d.isNaN then 0
  else if !d.isFinite then (if d.negative then -0x8000000000000000 else 0x7FFFFFFFFFFFFFFF)
  else
    let (m, q) := d.parts
    let size : Nat := if q ≥ 0 then m <<< q.toNat else m >>> (-q).toNat
    if d.negative then max (-(size : Int)) (-0x8000000000000000)
    else min (size : Int) 0x7FFFFFFFFFFFFFFF

/-- The sixteen hexadecimal digits of the bits. -/
def bitsText (d : Double) : String :=
  String.ofList (Text.lastDigits Text.hexDigit 16 d.bits.toNat)

end Double

end ZigbeeBridge.Numeral
