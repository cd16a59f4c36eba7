import ZigbeeBridge.Text.Ascii
import ZigbeeBridge.Text.Hex

/-!
The text of a string in a YAML document. It stands as it is where no reader would take it for
anything else, and otherwise between quotes; one with line breaks goes on lines of its own.
-/
namespace ZigbeeBridge.Yaml

def isBreak (c : Char) : Bool :=
  c == '\n' || c == '\r' || c == '\u0085' || c == '\u2028' || c == '\u2029'

def isPrintable (c : Char) : Bool :=
  let n := c.toNat
  c == '\n' || (0x20 ≤ n && n ≤ 0x7E) || (0xA0 ≤ n && n ≤ 0xD7FF) ||
    (0xE000 ≤ n && n ≤ 0xFFFD && n != 0xFEFF) || 0x10000 ≤ n

/-- What may stand between two words. -/
def isGap (c : Char) : Bool := c == ' ' || c == '\t' || c == '\x00' || isBreak c

def adjacent (p q : Char → Bool) : List Char → Bool
  | a :: b :: cs => p a && q b || adjacent p q (b :: cs)
  | _ => false

/-- Characters that mean something at the beginning of a node. -/
def isIndicator (c : Char) : Bool := "#,[]\x7b\x7d&*!|>'\"%@`".toList.contains c

def beginsNode (cs : List Char) : Bool :=
  match cs with
  | '-' :: '-' :: '-' :: _ | '.' :: '.' :: '.' :: _ => true
  | c :: rest =>
    isIndicator c || (['-', '?', ':'].contains c && (rest.head?.map isGap).getD true)
  | [] => true

/-- A colon before a gap, or a number sign after one. -/
def hasInnerIndicator (cs : List Char) : Bool :=
  adjacent (· == ':') isGap cs || cs.getLast? == some ':' || adjacent isGap (· == '#') cs

def hasEdge (cs : List Char) : Bool :=
  let atEdge (c : Char) : Bool := c == ' ' || isBreak c
  (cs.head?.map atEdge).getD true || (cs.getLast?.map atEdge).getD true

def allowsPlain (cs : List Char) : Bool :=
  cs.all (fun c => isPrintable c && !isBreak c) && !hasEdge cs && !beginsNode cs &&
    !hasInnerIndicator cs

def allowsQuotes (cs : List Char) : Bool :=
  cs.all isPrintable && !adjacent isBreak (· == ' ') cs && !adjacent (· == ' ') isBreak cs

def allowsLines (cs : List Char) : Bool :=
  cs.all isPrintable && cs.getLast? != some ' ' && !adjacent (· == ' ') isBreak cs

/-- Words that some reader takes for a truth value or for nothing. -/
def isReservedWord (cs : List Char) : Bool :=
  ["", "~", "null", "true", "false", "y", "yes", "n", "no", "on", "off"].contains
    (Text.lowercase (String.ofList cs))

/-- Whatever begins like a number might be taken for one. -/
def beginsNumber (cs : List Char) : Bool :=
  (cs.head?.map fun c => c.isDigit || ['-', '+', '.'].contains c).getD false

def escapeChar (c : Char) : List Char :=
  let n := c.toNat
  match c with
  | '\x00' => ['\\', '0']
  | '\x07' => ['\\', 'a']
  | '\x08' => ['\\', 'b']
  | '\t' => ['\\', 't']
  | '\n' => ['\\', 'n']
  | '\x0b' => ['\\', 'v']
  | '\x0c' => ['\\', 'f']
  | '\r' => ['\\', 'r']
  | '\x1b' => ['\\', 'e']
  | '"' => ['\\', '"']
  | '\\' => ['\\', '\\']
  | '\u0085' => ['\\', 'N']
  | '\u2028' => ['\\', 'L']
  | '\u2029' => ['\\', 'P']
  | c =>
    if isPrintable c then [c]
    else if n ≤ 0xFF then '\\' :: 'x' :: Text.lastDigits Text.upperHexDigit 2 n
    else '\\' :: 'u' :: Text.lastDigits Text.upperHexDigit 4 n

def doubleQuoted (cs : List Char) : String :=
  String.ofList ('"' :: (cs.flatMap escapeChar ++ ['"']))

/-- A quote inside is written twice. -/
def singleQuoted (cs : List Char) : String :=
  String.ofList ('\'' :: (cs.flatMap (fun c => if c = '\'' then ['\'', '\''] else [c]) ++ ['\'']))

/-- The mark in front of a text on lines of its own: whether its lines begin with a blank, and how
many line breaks end it. -/
def linesMark (cs : List Char) : String :=
  let indentation := if (cs.head?.map fun c => c == ' ' || isBreak c).getD false then "2" else ""
  let ending := match cs.reverse with
    | [] => "-"
    | [c] => if isBreak c then "+" else "-"
    | c :: before :: _ => if !isBreak c then "-" else if isBreak before then "+" else ""
  "|" ++ indentation ++ ending

/-- The lines of a string: its text or its mark, and what follows below. -/
def stringLines (s : String) : List String :=
  let cs := s.toList
  if cs.contains '\n' then
    if allowsLines cs then
      let lines := (cs.splitOn '\n').map String.ofList
      linesMark cs :: (if cs.getLast? = some '\n' then lines.dropLast else lines)
    else [doubleQuoted cs]
  else if !isReservedWord cs && !beginsNumber cs && allowsPlain cs then [s]
  else if allowsQuotes cs then [singleQuoted cs]
  else [doubleQuoted cs]

end ZigbeeBridge.Yaml
