import ZigbeeBridge.Text.Hex
import ZigbeeBridge.Text.Utf8

/-!
Blanks, comments, keys and strings of a TOML document.
-/
namespace ZigbeeBridge.Toml

/-- What is wrong, and how many bytes of the text come after that place. -/
structure Flaw where
  message : String
  left : Nat
  deriving DecidableEq, Repr

def Flaw.before (rest : List Char) : Flaw := ⟨"", Text.byteLength rest⟩

/-- Reads a beginning of the text and hands on the rest. -/
abbrev Reader (α : Type) := List Char → Except Flaw (α × List Char)

def fail {α : Type} (rest : List Char) : Except Flaw α := .error (.before rest)

def isBlank (c : Char) : Bool := c == ' ' || c == '\t'

def skipBlank (cs : List Char) : List Char := cs.dropWhile isBlank

/-- Control characters apart from the tab. -/
def isControl (c : Char) : Bool := (c < ' ' && c != '\t') || c == '\x7f'

/-- The rest after a line break that is there. -/
def lineBreak? : List Char → Option (List Char)
  | '\n' :: cs => some cs
  | '\r' :: '\n' :: cs => some cs
  | _ => none

def skipComment (cs : List Char) : List Char :=
  match cs with
  | '#' :: cs => cs.dropWhile (!isControl ·)
  | cs => cs

/-- Passes over the end of a line. -/
def lineEnd (cs : List Char) : Except Flaw (List Char) :=
  match skipComment (skipBlank cs) with
  | [] => .ok []
  | rest =>
    match lineBreak? rest with
    | some rest => .ok rest
    | none => fail rest

/-- Passes over blanks, comments and line breaks. -/
def skipLines : Nat → List Char → List Char
  | 0, cs => cs
  | fuel + 1, cs =>
    let rest := skipComment (skipBlank cs)
    match lineBreak? rest with
    | some rest => skipLines fuel rest
    | none => rest

/-- The number that so many hexadecimal digits spell. -/
def hexDigits? : Nat → Nat → List Char → Option (Nat × List Char)
  | 0, n, cs => some (n, cs)
  | _ + 1, _, [] => none
  | count + 1, n, c :: cs => do hexDigits? count (16 * n + (← Text.hexValue? c)) cs

def scalarAt (digits : Nat) : Reader Char := fun cs =>
  match hexDigits? digits 0 cs with
  | some (n, rest) => if n.isValidChar then .ok (Char.ofNat n, rest) else fail cs
  | none => fail cs

/-- What follows the backslash of an escape. -/
def escape : Reader Char := fun cs =>
  match cs with
  | 'b' :: cs => .ok ('\x08', cs)
  | 't' :: cs => .ok ('\t', cs)
  | 'n' :: cs => .ok ('\n', cs)
  | 'f' :: cs => .ok ('\x0c', cs)
  | 'r' :: cs => .ok ('\r', cs)
  | '"' :: cs => .ok ('"', cs)
  | '\\' :: cs => .ok ('\\', cs)
  | 'u' :: cs => scalarAt 4 cs
  | 'U' :: cs => scalarAt 8 cs
  | cs => fail cs

/-- A string on one line, after its opening quote. -/
def basicBody : Nat → Reader (List Char)
  | 0, cs => fail cs
  | fuel + 1, cs =>
    match cs with
    | '"' :: rest => .ok ([], rest)
    | '\\' :: rest => do
      let (c, rest) ← escape rest
      let (body, rest) ← basicBody fuel rest
      .ok (c :: body, rest)
    | c :: rest =>
      if isControl c then fail cs
      else do
        let (body, rest) ← basicBody fuel rest
        .ok (c :: body, rest)
    | [] => fail []

/-- The quotes at the end of a string of several lines: three close it, and up to two before them
belong to it. -/
def closing? (quote : Char) (cs : List Char) : Option (List Char × List Char) :=
  let n := (cs.takeWhile (· = quote)).length
  if n < 3 then none else some (List.replicate (min n 5 - 3) quote, cs.drop (min n 5))

/-- A backslash at the end of a line takes all blank space up to the next text with it. -/
def continuation? (cs : List Char) : Option (List Char) :=
  (lineBreak? (skipBlank cs)).map fun rest =>
    rest.dropWhile fun c => isBlank c || c == '\n' || c == '\r'

/-- A string of several lines, after its opening quotes. -/
def linesBody : Nat → Reader (List Char)
  | 0, cs => fail cs
  | fuel + 1, cs =>
    match closing? '"' cs, lineBreak? cs with
    | some (quotes, rest), _ => .ok (quotes, rest)
    | none, some rest => do
      let (body, rest) ← linesBody fuel rest
      .ok ('\n' :: body, rest)
    | none, none =>
      match cs with
      | '\\' :: rest =>
        match continuation? rest with
        | some rest => linesBody fuel rest
        | none => do
          let (c, rest) ← escape rest
          let (body, rest) ← linesBody fuel rest
          .ok (c :: body, rest)
      | c :: rest =>
        if isControl c then fail cs
        else do
          let (body, rest) ← linesBody fuel rest
          .ok (c :: body, rest)
      | [] => fail []

/-- A literal string of several lines, after its opening quotes. -/
def literalLinesBody : Nat → Reader (List Char)
  | 0, cs => fail cs
  | fuel + 1, cs =>
    match closing? '\'' cs, lineBreak? cs with
    | some (quotes, rest), _ => .ok (quotes, rest)
    | none, some rest => do
      let (body, rest) ← literalLinesBody fuel rest
      .ok ('\n' :: body, rest)
    | none, none =>
      match cs with
      | c :: rest =>
        if isControl c then fail cs
        else do
          let (body, rest) ← literalLinesBody fuel rest
          .ok (c :: body, rest)
      | [] => fail []

/-- A literal string on one line, after its opening quote. -/
def literalBody : Reader (List Char) := fun cs =>
  let isInside (c : Char) : Bool := c != '\'' && !isControl c
  match cs.dropWhile isInside with
  | '\'' :: rest => .ok (cs.takeWhile isInside, rest)
  | rest => fail rest

/-- A line break right after the opening quotes does not count. -/
def dropFirstBreak (cs : List Char) : List Char := (lineBreak? cs).getD cs

/-- A string of any form; the text begins with a quote. -/
def string : Reader String := fun cs => do
  let (body, rest) ← match cs with
    | '"' :: '"' :: '"' :: rest => linesBody (rest.length + 1) (dropFirstBreak rest)
    | '\'' :: '\'' :: '\'' :: rest => literalLinesBody (rest.length + 1) (dropFirstBreak rest)
    | '"' :: rest => basicBody (rest.length + 1) rest
    | '\'' :: rest => literalBody rest
    | rest => fail rest
  .ok (String.ofList body, rest)

def isBareKey (c : Char) : Bool :=
  ('a' ≤ c && c ≤ 'z') || ('A' ≤ c && c ≤ 'Z') || ('0' ≤ c && c ≤ '9') || c == '_' || c == '-'

def key : Reader String := fun cs => do
  match cs with
  | '"' :: rest =>
    let (body, rest) ← basicBody (rest.length + 1) rest
    .ok (String.ofList body, rest)
  | '\'' :: rest =>
    let (body, rest) ← literalBody rest
    .ok (String.ofList body, rest)
  | cs =>
    match cs.takeWhile isBareKey with
    | [] => fail cs
    | name => .ok (String.ofList name, cs.dropWhile isBareKey)

/-- Keys with dots between them. -/
def keyPath : Nat → Reader (List String)
  | 0, cs => fail cs
  | fuel + 1, cs => do
    let (name, rest) ← key (skipBlank cs)
    match skipBlank rest with
    | '.' :: rest =>
      let (names, rest) ← keyPath fuel rest
      .ok (name :: names, rest)
    | rest => .ok ([name], rest)

end ZigbeeBridge.Toml
