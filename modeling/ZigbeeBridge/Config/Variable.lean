import ZigbeeBridge.Data.Value
import ZigbeeBridge.Numeral.Reading
import ZigbeeBridge.Text.Ascii
import ZigbeeBridge.Text.Blank
import ZigbeeBridge.Text.Integer
import ZigbeeBridge.Toml.Lexis

/-!
Settings from the environment. The name of a variable spells a path, and its text a value: a truth
value, a number, a string, an array or a table. A text that spells none of them is a string.
-/
namespace ZigbeeBridge.Variable

open Data Numeral Text

def isSpace (c : Char) : Bool := c == ' ' || c == '\t' || c == '\n' || c == '\x0c' || c == '\r'

def skipSpace (cs : List Char) : List Char := cs.dropWhile isSpace

/-- Characters that end a plain text. -/
def isDivider (c : Char) : Bool := [',', '\x7b', '\x7d', '[', ']'].contains c

def ofInteger? (word : List Char) : Option Value :=
  ((integer? word).bind Number.ofInt?).map .number

/-- A number with a point, before or after which there need not be a digit. -/
def ofFloat? (word : List Char) : Option Value := do
  let isMark (c : Char) : Bool := c == 'e' || c == 'E'
  let (negative, cs) := splitSign word
  let front := cs.takeWhile (!isMark ·)
  let whole := front.takeWhile (· ≠ '.')
  let fraction := (front.drop whole.length).drop 1
  let exponent ← match cs.drop front.length with
    | [] => some 0
    | _ :: digits => integer? digits
  if !front.contains '.' || (whole ++ fraction).isEmpty || !(whole ++ fraction).all isDigit then
    none
  else
    let x := sized whole fraction exponent
    some (.number (.double (Double.ofFloat (if negative then -x else x))))

def plain (word : List Char) : Value :=
  ((ofFloat? word).or (ofInteger? word)).getD (.string (String.ofList word))

/-- Parts between commas, up to the closing bracket. -/
def parts {α : Type} (part : List Char → Option (α × List Char)) (closing : Char) :
    Nat → List Char → Option (List α × List Char)
  | 0, _ => none
  | fuel + 1, cs =>
    match cs with
    | [] => none
    | c :: rest =>
      if c = closing then some ([], rest)
      else do
        let (x, rest) ← part (c :: rest)
        match rest with
        | ',' :: rest =>
          let (xs, rest) ← parts part closing fuel rest
          some (x :: xs, rest)
        | c :: rest => if c = closing then some ([x], rest) else none
        | [] => none

def quoted? (cs : List Char) : Option (String × List Char) :=
  match Toml.basicBody (cs.length + 1) cs with
  | .ok (body, rest) => some (String.ofList body, rest)
  | .error _ => none

def key? (cs : List Char) : Option (String × List Char) :=
  match cs with
  | '"' :: rest => quoted? rest
  | cs =>
    match cs.takeWhile Toml.isBareKey with
    | [] => none
    | name => some (String.ofList name, cs.dropWhile Toml.isBareKey)

def member? (value : List Char → Option (Value × List Char)) (cs : List Char) :
    Option ((String × Value) × List Char) := do
  let (key, rest) ← key? (skipSpace cs)
  match skipSpace rest with
  | '=' :: rest =>
    let (v, rest) ← value rest
    some ((key, v), rest)
  | _ => none

/-- A value at the front, with the blanks around it. -/
def value? : Nat → List Char → Option (Value × List Char)
  | 0, _ => none
  | fuel + 1, cs => do
    let (v, rest) ← match skipSpace cs with
      | 't' :: 'r' :: 'u' :: 'e' :: rest => some (.bool true, rest)
      | 'f' :: 'a' :: 'l' :: 's' :: 'e' :: rest => some (.bool false, rest)
      | '\x7b' :: rest => do
        let (ms, rest) ← parts (member? (value? fuel)) '\x7d' (rest.length + 1) rest
        some (Value.object (Entries.ofList ms), rest)
      | '[' :: rest => do
        let (vs, rest) ← parts (value? fuel) ']' (rest.length + 1) rest
        some (.array vs, rest)
      | '"' :: rest => do
        let (s, rest) ← quoted? rest
        some (.string s, rest)
      | '\'' :: c :: '\'' :: rest => some (.string (String.singleton c), rest)
      | '\'' :: _ => none
      | rest =>
        some (plain (trimChars (rest.takeWhile (!isDivider ·))), rest.dropWhile (!isDivider ·))
    some (v, skipSpace rest)

def ofText (text : String) : Value :=
  match value? (text.length + 1) text.toList with
  | some (v, []) => v
  | _ => .string text

/-- What the name of a variable begins with, in any letter case. -/
def nameStart : List Char := "DECONZ_".toList

/-- Two underscores divide like a dot. -/
def splitPath : List Char → List (List Char)
  | [] => [[]]
  | '_' :: '_' :: cs => [] :: splitPath cs
  | '.' :: cs => [] :: splitPath cs
  | c :: cs =>
    match splitPath cs with
    | part :: parts => (c :: part) :: parts
    | [] => [[c]]

/-- The path that the name of a variable spells; none for another variable. -/
def path? (name : String) : Option (List String) :=
  let cs := trimChars name.toList
  if !beginsWith nameStart cs then none
  else
    let parts := splitPath (trimChars (cs.drop nameStart.length))
    if parts.any (·.isEmpty) then none
    else some (parts.map fun part => lowercase (String.ofList part))

/-- The value at the end of a path of objects. -/
def nest : List String → Value → Value
  | [], v => v
  | key :: path, v => .object [(key, nest path v)]

end ZigbeeBridge.Variable
