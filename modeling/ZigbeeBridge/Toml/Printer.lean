import ZigbeeBridge.Data.Value
import ZigbeeBridge.Text.Hex

/-!
Writing a TOML document of scalars and tables. A string takes the plainest form that can hold it.
-/
namespace ZigbeeBridge.Toml

open Data

/-- The length of the longest run of a character. -/
def longestRun (quote : Char) : Nat → List Char → Nat
  | n, [] => n
  | n, c :: cs => if c = quote then longestRun quote (n + 1) cs else max n (longestRun quote 0 cs)

/-- Control characters that can only be written as escapes. -/
def needsEscape (c : Char) : Bool := (c < ' ' && c != '\t' && c != '\n') || c == '\x7f'

/-- The escaped form; so many quotes may stand in a row, and on several lines a line break too. -/
def escaped (lines : Bool) (quotes : Nat) : Nat → List Char → List Char
  | _, [] => []
  | run, '"' :: cs =>
    if run < quotes then '"' :: escaped lines quotes (run + 1) cs
    else '\\' :: '"' :: escaped lines quotes 0 cs
  | _, c :: cs =>
    let form := match c with
      | '\x08' => ['\\', 'b']
      | '\t' => ['\\', 't']
      | '\n' => if lines then ['\n'] else ['\\', 'n']
      | '\x0c' => ['\\', 'f']
      | '\r' => ['\\', 'r']
      | '\\' => ['\\', '\\']
      | c =>
        if needsEscape c then '\\' :: 'u' :: Text.lastDigits Text.upperHexDigit 4 c.toNat
        else [c]
    form ++ escaped lines quotes 0 cs

def basic (cs : List Char) : List Char := '"' :: (escaped false 0 0 cs ++ ['"'])

def literal (cs : List Char) : List Char := '\'' :: (cs ++ ['\''])

/-- Three quotes on either side; a text with line breaks begins on a line of its own. -/
def onLines (quote : Char) (cs body : List Char) : List Char :=
  let quotes := List.replicate 3 quote
  quotes ++ (if cs.contains '\n' then ['\n'] else []) ++ body ++ quotes

def basicLines (cs : List Char) : List Char := onLines '"' cs (escaped true 2 0 cs)

def stringText (s : String) : String :=
  let cs := s.toList
  let escapes := cs.any needsEscape
  let breaks := cs.contains '\n'
  let quotes := longestRun '"' 0 cs
  let apostrophes := longestRun '\'' 0 cs
  String.ofList <|
    if !escapes && !cs.contains '\\' && quotes == 0 && !breaks then basic cs
    else if !escapes && apostrophes == 0 && !breaks then literal cs
    else if !escapes && !cs.contains '\\' && quotes ≤ 2 then basicLines cs
    else if !escapes && apostrophes ≤ 2 then onLines '\'' cs cs
    else if breaks then basicLines cs
    else basic cs

def isBare (c : Char) : Bool := c.isAlphanum || c == '_' || c == '-'

def keyText (key : String) : String :=
  let cs := key.toList
  let plain := !cs.any needsEscape && !cs.contains '\n'
  if !cs.isEmpty && cs.all isBare then key
  else if plain && !cs.contains '"' && !cs.contains '\\' then String.ofList (basic cs)
  else if plain && !cs.contains '\'' then String.ofList (literal cs)
  else String.ofList (basic cs)

/-- The text of a scalar; integers have a sign and 64 bits. -/
def scalarText : Value → Except String String
  | .bool b => .ok (if b then "true" else "false")
  | .number (.integer n _) =>
    if n < 0x8000000000000000 then .ok (toString n) else .error "out-of-range value for u64 type"
  | .string s => .ok (stringText s)
  | _ => .error "unsupported value"

/-- The lines of the scalars; null is left out. -/
def scalarLines : List (String × Value) → Except String (List String)
  | [] => .ok []
  | (_, .null) :: rest => scalarLines rest
  | (_, .object _) :: rest => scalarLines rest
  | (key, v) :: rest => do
    let line := s!"{keyText key} = {← scalarText v}"
    .ok (line :: (← scalarLines rest))

def headerLine (path : List String) : String :=
  let name := ".".intercalate (path.map keyText)
  s!"[{name}]"

/-- The lines of a table come together; a table of nothing but tables needs no header. -/
def block (path : List String) (members : List (String × Value)) (lines : List String) :
    List (List String) :=
  if path.isEmpty then (if lines.isEmpty then [] else [lines])
  else if lines.isEmpty ∧ !members.isEmpty then []
  else [headerLine path :: lines]

mutual

def tableBlocks (path : List String) (members : List (String × Value)) :
    Except String (List (List String)) := do
  let own := block path members (← scalarLines members)
  .ok (own ++ (← innerBlocks path members))

def innerBlocks (path : List String) : List (String × Value) → Except String (List (List String))
  | [] => .ok []
  | (key, .object inner) :: rest => do
    let first ← tableBlocks (path ++ [key]) inner
    .ok (first ++ (← innerBlocks path rest))
  | _ :: rest => innerBlocks path rest

end

def print (members : List (String × Value)) : Except String String := do
  let blocks ← tableBlocks [] members
  .ok ("\n".intercalate (blocks.map fun lines => String.join (lines.map (· ++ "\n"))))

end ZigbeeBridge.Toml
