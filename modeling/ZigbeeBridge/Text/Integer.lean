/-!
Integers in decimal, with an optional sign in front.
-/
namespace ZigbeeBridge.Text

def decimalDigit? (c : Char) : Option Nat :=
  if '0' ≤ c ∧ c ≤ '9' then some (c.toNat - 48) else none

def digits? (cs : List Char) : Option Nat :=
  if cs.isEmpty then none
  else cs.foldlM (fun n c => (decimalDigit? c).map (10 * n + ·)) 0

def integer? (cs : List Char) : Option Int :=
  match cs with
  | '-' :: cs => (digits? cs).map fun n => -(n : Int)
  | '+' :: cs => (digits? cs).map Int.ofNat
  | cs => (digits? cs).map Int.ofNat

/-- An integer that fits 64 bits with sign. -/
def int64? (s : String) : Option Int64 :=
  let fits (n : Int) : Bool := -0x8000000000000000 ≤ n && n < 0x8000000000000000
  ((integer? s.toList).filter fits).map Int64.ofInt

/-- A count below the bound; a plus sign is all the sign it may have. -/
def natBelow? (bound : Nat) (s : String) : Option Nat :=
  match s.toList with
  | '+' :: cs => (digits? cs).filter (· < bound)
  | cs => (digits? cs).filter (· < bound)

end ZigbeeBridge.Text
