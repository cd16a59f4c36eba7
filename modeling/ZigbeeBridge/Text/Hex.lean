/-!
Hexadecimal digits.
-/
namespace ZigbeeBridge.Text

def hexDigit (n : Nat) : Char := "0123456789abcdef".toList.getD n '0'

def upperHexDigit (n : Nat) : Char := "0123456789ABCDEF".toList.getD n '0'

def hexValue? (c : Char) : Option Nat :=
  if '0' ≤ c ∧ c ≤ '9' then some (c.toNat - 48)
  else if 'a' ≤ c ∧ c ≤ 'f' then some (c.toNat - 87)
  else if 'A' ≤ c ∧ c ≤ 'F' then some (c.toNat - 55)
  else none

/-- The last digits of a number, as many as asked for. -/
def lastDigits (digit : Nat → Char) : Nat → Nat → List Char
  | 0, _ => []
  | count + 1, n => lastDigits digit count (n / 16) ++ [digit (n % 16)]

/-- The digits of a number at the front, and the rest. -/
def hexNumber : Nat → List Char → Nat × List Char
  | n, [] => (n, [])
  | n, c :: cs =>
    match hexValue? c with
    | some d => hexNumber (16 * n + d) cs
    | none => (n, c :: cs)

end ZigbeeBridge.Text
