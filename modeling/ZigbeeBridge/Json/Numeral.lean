import ZigbeeBridge.Data.Value
import ZigbeeBridge.Json.Fault
import ZigbeeBridge.Numeral.Reading

/-!
Numbers of a JSON text. A number without fraction and exponent that fits 64 bits is an integer.
Any other is computed as a double from at most 64 bits of its digits and one power of ten at a
time, which is quick and may be off by a unit in the last place.
-/
namespace ZigbeeBridge.Json

open Data Numeral

def digitValue (c : Char) : Nat := c.toNat - 48

/-- Digits taken one by one while the number they make fits 64 bits, and what is left of them. -/
def takeDigits : Nat → List Char → Nat × List Char
  | n, [] => (n, [])
  | n, d :: ds =>
    if n * 10 + digitValue d < 0x10000000000000000 then takeDigits (n * 10 + digitValue d) ds
    else (n, d :: ds)

/-- The digits of a number before they are put together. -/
structure Significand where
  digits : Nat
  exponent : Int

/-- Whole digits beyond 64 bits only count as powers of ten. -/
def Significand.ofWhole (whole : List Char) : Significand :=
  let (n, rest) := takeDigits 0 whole
  ⟨n, rest.length⟩

/-- Digits of the fraction beyond 64 bits are dropped. -/
def Significand.withFraction (s : Significand) (fraction : List Char) : Significand :=
  let (n, rest) := takeDigits s.digits fraction
  ⟨n, s.exponent - (fraction.length - rest.length : Nat)⟩

def pow10 (n : Nat) : Float := Float.ofScientific 1 false n

/-- Divides by `10 ^ 308` while the exponent is out of the table and anything is left. -/
def scaleDown : Nat → Float → Nat → Float
  | 0, x, _ => x
  | fuel + 1, x, n =>
    if n ≤ 308 then x / pow10 n
    else if x == 0.0 then x
    else scaleDown fuel (x / pow10 308) (n - 308)

/-- The double of the size; none when it is too large. -/
def Significand.toFloat? (s : Significand) : Option Float :=
  let x := s.digits.toUInt64.toFloat
  if s.exponent < 0 then some (scaleDown 5 x s.exponent.natAbs)
  else if s.exponent ≤ 308 then
    let y := x * pow10 s.exponent.natAbs
    if y.isInf then none else some y
  else if x == 0.0 then some x
  else none

def doubleOf (negative : Bool) (x : Float) : Number :=
  .double (Double.ofFloat (if negative then -x else x))

def clamp32 (n : Int) : Int := max (-0x80000000) (min n 0x7FFFFFFF)

/-- Exponent digits taken while they fit 31 bits; the rest begins with the one that did not. -/
def takeExponent : Nat → List Char → Nat × List Char
  | n, [] => (n, [])
  | n, d :: ds =>
    if n * 10 + digitValue d < 0x80000000 then takeExponent (n * 10 + digitValue d) ds
    else (n, d :: ds)

/-- An integer where it fits, else the nearest double. -/
def wholeNumber (negative : Bool) (whole : List Char) (rest : List Char) :
    Except (Fault Flaw) (Number × List Char) :=
  let s := Significand.ofWhole whole
  let exact : Option Number :=
    if s.exponent ≠ 0 ∨ negative ∧ s.digits = 0 then none
    else if negative then Number.ofInt? (-(s.digits : Int))
    else Number.ofInt? s.digits
  match exact with
  | some n => .ok (n, rest)
  | none =>
    match s.toFloat? with
    | some x => .ok (doubleOf negative x, rest)
    | none => .error (.before .numberTooLarge rest)

def sized (negative : Bool) (s : Significand) (rest : List Char) :
    Except (Fault Flaw) (Number × List Char) :=
  match s.toFloat? with
  | some x => .ok (doubleOf negative x, rest)
  | none => .error (.before .numberTooLarge rest)

/-- What follows the letter of an exponent. -/
def exponentPart (negative : Bool) (s : Significand) (cs : List Char) :
    Except (Fault Flaw) (Number × List Char) :=
  let (down, cs) := match cs with
    | '+' :: rest => (false, rest)
    | '-' :: rest => (true, rest)
    | _ => (false, cs)
  match cs with
  | [] => .error (.before .endInValue [])
  | c :: _ =>
    if !isDigit c then .error (.next .badNumber cs)
    else
      let digits := cs.takeWhile isDigit
      let rest := cs.dropWhile isDigit
      let (e, left) := takeExponent 0 digits
      match left with
      | [] =>
        let exponent := if down then clamp32 (s.exponent - e) else clamp32 (s.exponent + e)
        sized negative ⟨s.digits, exponent⟩ rest
      | _ :: left =>
        if s.digits ≠ 0 ∧ !down then .error (.before .numberTooLarge (left ++ rest))
        else .ok (doubleOf negative 0.0, rest)

/-- What follows the point of a fraction. -/
def fractionPart (negative : Bool) (s : Significand) (cs : List Char) :
    Except (Fault Flaw) (Number × List Char) :=
  let digits := cs.takeWhile isDigit
  let rest := cs.dropWhile isDigit
  match digits, rest with
  | [], [] => .error (.before .endInValue [])
  | [], _ => .error (.next .badNumber rest)
  | _, _ =>
    let s := s.withFraction digits
    match rest with
    | 'e' :: after | 'E' :: after => exponentPart negative s after
    | _ => sized negative s rest

/-- A number after its sign. -/
def number (negative : Bool) (cs : List Char) : Except (Fault Flaw) (Number × List Char) :=
  match cs with
  | [] => .error (.before .endInValue [])
  | c :: after =>
    if !isDigit c then .error (.next .badNumber cs)
    else if c = '0' ∧ (after.head?.map isDigit).getD false then .error (.next .badNumber after)
    else
      let whole := cs.takeWhile isDigit
      let rest := cs.dropWhile isDigit
      match rest with
      | '.' :: after => fractionPart negative (.ofWhole whole) after
      | 'e' :: after | 'E' :: after => exponentPart negative (.ofWhole whole) after
      | _ => wholeNumber negative whole rest

/-- The extent of an exponent, whatever its size. -/
def skipExponent (cs : List Char) : Except (Fault Flaw) (List Char) :=
  let cs := match cs with
    | '+' :: rest | '-' :: rest => rest
    | _ => cs
  match cs with
  | [] => .error (.before .badNumber [])
  | c :: _ => if isDigit c then .ok (cs.dropWhile isDigit) else .error (.next .badNumber cs)

/-- The extent of a number, whatever its size. -/
def skipNumber (cs : List Char) : Except (Fault Flaw) (List Char) :=
  match cs with
  | [] => .error (.before .badNumber [])
  | c :: after =>
    if !isDigit c then .error (.next .badNumber cs)
    else if c = '0' ∧ (after.head?.map isDigit).getD false then .error (.next .badNumber after)
    else
      match cs.dropWhile isDigit with
      | '.' :: fraction =>
        match fraction.takeWhile isDigit, fraction.dropWhile isDigit with
        | [], rest => .error (.next .badNumber rest)
        | _, 'e' :: after => skipExponent after
        | _, 'E' :: after => skipExponent after
        | _, rest => .ok rest
      | 'e' :: after | 'E' :: after => skipExponent after
      | rest => .ok rest

end ZigbeeBridge.Json
