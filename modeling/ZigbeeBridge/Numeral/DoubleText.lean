import ZigbeeBridge.Numeral.Shortest

/-!
The text of a double, in two formats over the same shortest digits: with an exponent outside a
middle range of sizes, and positional throughout.
-/
namespace ZigbeeBridge.Numeral.Double

/-- The digits of the decimal and the place of its point, counted from their left. -/
def digitsAndPoint (d : Double) : List Char × Int :=
  let s := d.shortest
  let ds := Nat.toDigits 10 s.digits
  (ds, s.exponent + ds.length)

def zeros (n : Nat) : List Char := List.replicate n '0'

/-- Positional notation; a whole number gets `tail` for its fraction. -/
def positional (ds : List Char) (point : Int) (tail : List Char) : List Char :=
  if point ≤ 0 then '0' :: '.' :: (zeros (-point).toNat ++ ds)
  else if ds.length ≤ point then ds ++ zeros (point.toNat - ds.length) ++ tail
  else ds.take point.toNat ++ '.' :: ds.drop point.toNat

def scientific (ds : List Char) (point : Int) : List Char :=
  let fraction := if ds.length ≤ 1 then [] else '.' :: ds.drop 1
  let e := point - 1
  let sign := if e < 0 then '-' else '+'
  ds.take 1 ++ fraction ++ 'e' :: sign :: Nat.toDigits 10 e.natAbs

def signed (d : Double) (body : List Char) : String :=
  String.ofList (if d.negative then '-' :: body else body)

/-- A point or an exponent always shows; an exponent only from `1e+16` up and from `1e-6` down. -/
def pointedText (d : Double) : String :=
  if !d.isFinite then "null"
  else if d.fractionField = 0 ∧ d.exponentField = 0 then d.signed "0.0".toList
  else
    let (ds, point) := d.digitsAndPoint
    d.signed (if -5 < point ∧ point ≤ 16 then positional ds point ".0".toList
      else scientific ds point)

/-- No exponent, and no point in a whole number. -/
def plainText (d : Double) : String :=
  if d.isNaN then "NaN"
  else if !d.isFinite then d.signed "inf".toList
  else if d.fractionField = 0 ∧ d.exponentField = 0 then d.signed "0".toList
  else
    let (ds, point) := d.digitsAndPoint
    d.signed (positional ds point [])

end ZigbeeBridge.Numeral.Double
