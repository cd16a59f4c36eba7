import ZigbeeBridge.Numeral.Double

/-!
The shortest decimal that reads back as a given double, and among those the nearest. A positive
double is `m * 2 ^ q`; the numbers that round to it form an interval whose ends belong to it when
`m` is even. For one, two, ... seventeen digits the two neighbours of the value on that decimal
grid are tried in exact arithmetic.
-/
namespace ZigbeeBridge.Numeral

/-- The number `digits * 10 ^ exponent`. -/
structure Decimal where
  digits : Nat
  exponent : Int
  deriving DecidableEq, Repr, Inhabited

namespace Decimal

def tenTo (n : Nat) : Nat := Nat.pow 10 n

/-- `a * 2 ^ q` against `b * 10 ^ e`, as the sign of their difference. -/
def compareScaled (a : Nat) (q : Int) (b : Nat) (e : Int) : Ordering :=
  let left := (a <<< q.toNat) * tenTo (-e).toNat
  let right := (b <<< (-q).toNat) * tenTo e.toNat
  compare left right

/-- The whole part of `a * 2 ^ q / 10 ^ e`. -/
def quotient (a : Nat) (q : Int) (e : Int) : Nat :=
  ((a <<< q.toNat) * tenTo (-e).toNat) / (tenTo e.toNat <<< (-q).toNat)

/-- The interval of numbers that round to `m * 2 ^ q`, in quarters of `2 ^ q`. -/
structure Rounding where
  low : Nat
  high : Nat
  q : Int
  closed : Bool

def Rounding.of (m : Nat) (q : Int) : Rounding :=
  let narrow := m = 0x10000000000000 ∧ q > -1074
  ⟨4 * m - (if narrow then 1 else 2), 4 * m + 2, q - 2, m % 2 = 0⟩

def Rounding.holds (r : Rounding) (d : Decimal) : Bool :=
  match compareScaled r.low r.q d.digits d.exponent,
      compareScaled r.high r.q d.digits d.exponent with
  | .lt, .gt => true
  | .eq, _ | _, .eq => r.closed
  | _, _ => false

/-- The nearer of two neighbours on a grid; halfway the even one. -/
def nearer (m : Nat) (q : Int) (below : Decimal) : Decimal :=
  let above := { below with digits := below.digits + 1 }
  match compareScaled (2 * m) q (below.digits + above.digits) below.exponent with
  | .lt => below
  | .gt => above
  | .eq => if below.digits % 2 = 0 then below else above

/-- The power of ten above the value: `10 ^ (k - 1) ≤ m * 2 ^ q < 10 ^ k`. -/
def magnitude (m : Nat) (q : Int) : Int :=
  let guess := Int.fdiv ((m.log2 + q) * 30103) 100000
  if compareScaled m q 1 guess == .lt then guess
  else if compareScaled m q 1 (guess + 1) == .lt then guess + 1
  else guess + 2

def tryGrid (m : Nat) (q : Int) (e : Int) : Option Decimal :=
  let r := Rounding.of m q
  let below : Decimal := ⟨quotient m q e, e⟩
  let above : Decimal := ⟨below.digits + 1, e⟩
  match r.holds below && below.digits != 0, r.holds above with
  | true, true => some (nearer m q below)
  | true, false => some below
  | false, true => some above
  | false, false => none

/-- The first grid with a hit, from one digit to seventeen. -/
def shortest (m : Nat) (q : Int) : Decimal :=
  let k := magnitude m q
  ((List.range 17).findSome? fun n : Nat => tryGrid m q (k - 1 - (n : Int))).getD ⟨m, 0⟩

/-- Digits without zeros at the end. -/
def stripZeros : Nat → Decimal → Decimal
  | 0, d => d
  | fuel + 1, d =>
    if d.digits ≠ 0 ∧ d.digits % 10 = 0 then stripZeros fuel ⟨d.digits / 10, d.exponent + 1⟩ else d

end Decimal

/-- The shortest decimal of the size of a finite double that is not zero. -/
def Double.shortest (d : Double) : Decimal :=
  let (m, q) := d.parts
  Decimal.stripZeros 20 (Decimal.shortest m q)

end ZigbeeBridge.Numeral
