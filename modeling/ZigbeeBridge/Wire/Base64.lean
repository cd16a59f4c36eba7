/-!
Bytes in the alphabet of 64 letters, three bytes to four letters.
-/
namespace ZigbeeBridge.Wire

def letters64 : List Char :=
  "ABCDEFGHIJKLMNOPQRSTUVWXYZabcdefghijklmnopqrstuvwxyz0123456789+/".toList

/-- The letter for six bits. -/
def letter64 (n : Nat) : Char := letters64.getD (n % 64) '='

def base64 : List UInt8 → List Char
  | [] => []
  | [a] =>
    let n := 0x10000 * a.toNat
    [letter64 (n >>> 18), letter64 (n >>> 12), '=', '=']
  | [a, b] =>
    let n := 0x10000 * a.toNat + 0x100 * b.toNat
    [letter64 (n >>> 18), letter64 (n >>> 12), letter64 (n >>> 6), '=']
  | a :: b :: c :: rest =>
    let n := 0x10000 * a.toNat + 0x100 * b.toNat + c.toNat
    letter64 (n >>> 18) :: letter64 (n >>> 12) :: letter64 (n >>> 6) :: letter64 n :: base64 rest

end ZigbeeBridge.Wire
