import ZigbeeBridge.Data.Value
import ZigbeeBridge.Numeral.Reading
import ZigbeeBridge.Text.Hex

/-!
Numbers, truth values and times of a TOML document, each from the word that spells it.
-/
namespace ZigbeeBridge.Toml

open Data Numeral

/-- Digits with single underscores between them, without the underscores. -/
def plainDigits? (isDigit : Char → Bool) (cs : List Char) : Option (List Char) :=
  let runs := cs.splitOn '_'
  if runs.all fun run => !run.isEmpty && run.all isDigit then some runs.flatten else none

def number? (radix : Nat) (cs : List Char) : Option Nat :=
  let isDigit (c : Char) : Bool := (Text.hexValue? c).any (· < radix)
  (plainDigits? isDigit cs).map fun ds =>
    ds.foldl (fun n c => radix * n + (Text.hexValue? c).getD 0) 0

/-- Decimal digits without a zero in front of others. -/
def decimalDigits? (cs : List Char) : Option (List Char) :=
  (plainDigits? isDigit cs).filter fun ds => ds.length = 1 || ds.head? != some '0'

def integer? (word : List Char) : Option Int :=
  match word with
  | '0' :: 'x' :: cs => (number? 16 cs).map Int.ofNat
  | '0' :: 'o' :: cs => (number? 8 cs).map Int.ofNat
  | '0' :: 'b' :: cs => (number? 2 cs).map Int.ofNat
  | _ =>
    let (negative, cs) := splitSign word
    do
      let n ← Text.digits? (← decimalDigits? cs)
      some (if negative then -(n : Int) else n)

/-- An exponent with its sign; zeros may stand in front. -/
def exponent? (cs : List Char) : Option Int := do
  let (negative, cs) := splitSign cs
  let n ← Text.digits? (← plainDigits? isDigit cs)
  some (if negative then -(n : Int) else n)

def unsignedFloat? (cs : List Char) : Option Float :=
  if cs = "inf".toList then some (1.0 / 0.0)
  else if cs = "nan".toList then some (0.0 / 0.0)
  else do
    let isMark (c : Char) : Bool := c == 'e' || c == 'E'
    let front := cs.takeWhile (!isMark ·)
    let whole ← decimalDigits? (front.takeWhile (· ≠ '.'))
    let fraction ← match front.dropWhile (· ≠ '.') with
      | [] => some []
      | _ :: digits => plainDigits? isDigit digits
    let exponent ← match cs.dropWhile (!isMark ·) with
      | [] => some 0
      | _ :: digits => exponent? digits
    some (sized whole fraction exponent)

def float? (word : List Char) : Option Double :=
  let (negative, cs) := splitSign word
  (unsignedFloat? cs).map fun x => Double.ofFloat (if negative then -x else x)

/-- A number of exactly so many digits, within bounds. -/
def field? (digits low high : Nat) (cs : List Char) : Option Nat :=
  if cs.length = digits then (Text.digits? cs).filter fun n => low ≤ n && n ≤ high else none

def isLeapYear (y : Nat) : Bool := y % 4 == 0 && (y % 100 != 0 || y % 400 == 0)

def daysIn (year month : Nat) : Nat :=
  if month = 2 then (if isLeapYear year then 29 else 28)
  else if [4, 6, 9, 11].contains month then 30 else 31

def isDate (cs : List Char) : Bool :=
  match cs.splitOn '-' with
  | [y, m, d] =>
    (do
      let y ← field? 4 0 9999 y
      let m ← field? 2 1 12 m
      field? 2 1 (daysIn y m) d).isSome
  | _ => false

def isClock (cs : List Char) : Bool :=
  match cs.splitOn ':' with
  | [h, m, s] =>
    (field? 2 0 23 h).isSome && (field? 2 0 59 m).isSome &&
      match s.splitOn '.' with
      | [s] => (field? 2 0 60 s).isSome
      | [s, f] => (field? 2 0 60 s).isSome && !f.isEmpty && f.all isDigit
      | _ => false
  | _ => false

def isOffset (cs : List Char) : Bool :=
  match cs with
  | ['Z'] | ['z'] => true
  | sign :: cs =>
    (sign == '+' || sign == '-') &&
      match cs.splitOn ':' with
      | [h, m] => (field? 2 0 23 h).isSome && (field? 2 0 59 m).isSome
      | _ => false
  | [] => false

/-- A time of day, with or without its offset. -/
def isTime (cs : List Char) : Bool :=
  let isMark (c : Char) : Bool := c == 'Z' || c == 'z' || c == '+' || c == '-'
  let offset := cs.dropWhile (!isMark ·)
  isClock (cs.takeWhile (!isMark ·)) && (offset.isEmpty || isOffset offset)

/-- A date, a time of day, or both with a mark or a blank between them. -/
def isMoment (word : List Char) : Bool :=
  isDate word || isClock word ||
    (isDate (word.take 10) && isTime (word.drop 11) &&
      ["T", "t", " "].contains (String.ofList ((word.drop 10).take 1)))

/-- A moment stays the text that it is, under a key of its own. -/
def moment (word : List Char) : Value :=
  .object [("$__toml_private_datetime", .string (String.ofList word))]

def isWordChar (c : Char) : Bool :=
  isDigit c || ('a' ≤ c && c ≤ 'z') || ('A' ≤ c && c ≤ 'Z') ||
    c == '_' || c == '-' || c == '+' || c == '.' || c == ':'

/-- The word at the front; a blank after a date may lead to its time. -/
def wordLength (cs : List Char) : Nat :=
  let word := cs.takeWhile isWordChar
  match cs.drop word.length with
  | ' ' :: c :: rest =>
    if isDate word && isDigit c then word.length + 1 + ((c :: rest).takeWhile isWordChar).length
    else word.length
  | _ => word.length

def scalar? (word : List Char) : Option Value :=
  if word = "true".toList then some (.bool true)
  else if word = "false".toList then some (.bool false)
  else if isMoment word then some (moment word)
  else match integer? word with
    | some n =>
      if h : -0x8000000000000000 ≤ n ∧ n < 0x8000000000000000 then
        some (.number (.integer n ⟨h.1, by omega⟩))
      else none
    | none => (float? word).map fun d => .number (.double d)

end ZigbeeBridge.Toml
