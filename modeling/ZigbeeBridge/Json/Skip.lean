import ZigbeeBridge.Json.Parser

/-!
Passing over a value that nobody asks for. Its brackets must match, but its depth, the size of its
numbers and the pairing of its surrogates do not matter.
-/
namespace ZigbeeBridge.Json

open Numeral

/-- The brackets that stand open around a place. -/
inductive Bracket where
  | square
  | curly
  deriving DecidableEq, Repr

namespace Bracket

def close : Bracket → Char
  | square => ']'
  | curly => '\x7d'

def endFlaw : Bracket → Flaw
  | square => .endInArray
  | curly => .endInObject

def commaFlaw : Bracket → Flaw
  | square => .noCommaInArray
  | curly => .noCommaInObject

end Bracket

/-- In front of an element or key; or at the end of the outermost value. -/
inductive Place where
  | inside (inner : Bracket) (outer : List Bracket)
  | done

/-- After an opened bracket (`fresh`) or a finished value: passes over a comma or closing
brackets. -/
def closeBrackets (fresh : Bool) : Bracket → List Bracket → List Char → Nat →
    Except (Fault Flaw) (Place × List Char)
  | inner, _, cs, 0 => .error (.before inner.endFlaw cs)
  | inner, outer, cs, fuel + 1 =>
    match skipBlank cs with
    | [] => .error (.before inner.endFlaw [])
    | c :: rest =>
      if c = ',' ∧ !fresh then .ok (.inside inner outer, rest)
      else if c = inner.close then
        match outer with
        | [] => .ok (.done, rest)
        | b :: outer => closeBrackets false b outer rest fuel
      else if fresh then .ok (.inside inner outer, c :: rest)
      else .error (.next inner.commaFlaw (c :: rest))

/-- A key and its colon, where a value of an object comes next. -/
def skipKey (cs : List Char) : Except (Fault Flaw) (List Char) :=
  match skipBlank cs with
  | [] => .error (.before .endInObject [])
  | '"' :: rest => do colon (← skipString rest)
  | rest => .error (.next .keyNotString rest)

/-- A scalar or an opening bracket. -/
def skipStart (cs : List Char) : Except (Fault Flaw) (Option Bracket × List Char) :=
  match skipBlank cs with
  | [] => .error (.before .endInValue [])
  | c :: rest =>
    match c with
    | 'n' => do .ok (none, ← word "ull".toList rest)
    | 't' => do .ok (none, ← word "rue".toList rest)
    | 'f' => do .ok (none, ← word "alse".toList rest)
    | '"' => do .ok (none, ← skipString rest)
    | '-' => do .ok (none, ← skipNumber rest)
    | '[' => .ok (some .square, rest)
    | '\x7b' => .ok (some .curly, rest)
    | c =>
      if isDigit c then do .ok (none, ← skipNumber (c :: rest))
      else .error (.next .noValue (c :: rest))

def skipNested : Nat → List Bracket → List Char → Except (Fault Flaw) (List Char)
  | 0, _, cs => .error (.before .endInValue cs)
  | fuel + 1, open_, cs => do
    let (bracket?, rest) ← skipStart cs
    let (place, rest) ← match bracket?, open_ with
      | some b, outer => closeBrackets true b outer rest (rest.length + 1)
      | none, b :: outer => closeBrackets false b outer rest (rest.length + 1)
      | none, [] => .ok (.done, rest)
    match place with
    | .done => .ok rest
    | .inside .square outer => skipNested fuel (.square :: outer) rest
    | .inside .curly outer => do skipNested fuel (.curly :: outer) (← skipKey rest)

/-- The rest after one value. -/
def skipValue (cs : List Char) : Except (Fault Flaw) (List Char) :=
  skipNested (cs.length + 1) [] cs

end ZigbeeBridge.Json
