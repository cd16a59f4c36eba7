import ZigbeeBridge.Text.Integer

/-!
Reading a number from its digits.
-/
namespace ZigbeeBridge.Numeral

def isDigit (c : Char) : Bool := '0' ≤ c && c ≤ '9'

def splitSign : List Char → Bool × List Char
  | '-' :: cs => (true, cs)
  | '+' :: cs => (false, cs)
  | cs => (false, cs)

/-- The nearest double to a number, given the digits before and after its point and its exponent. -/
def sized (whole fraction : List Char) (exponent : Int) : Float :=
  let digits := (Text.digits? (whole ++ fraction)).getD 0
  let e := exponent - fraction.length
  if digits = 0 then 0.0
  else if e > 400 then 1.0 / 0.0
  else if e < -1000 - digits.log2 then 0.0
  else if e ≥ 0 then Float.ofScientific digits false e.toNat
  else Float.ofScientific digits true e.natAbs

end ZigbeeBridge.Numeral
