import ZigbeeBridge.Json.Fault
import ZigbeeBridge.Text.Hex

/-!
The smallest parts of a JSON text: blanks, words, strings.
-/
namespace ZigbeeBridge.Json

def isBlank (c : Char) : Bool := c == ' ' || c == '\n' || c == '\t' || c == '\r'

def skipBlank (cs : List Char) : List Char := cs.dropWhile isBlank

/-- The rest after the letters of a word. -/
def word : List Char → List Char → Except (Fault Flaw) (List Char)
  | [], cs => .ok cs
  | _ :: _, [] => .error (.before .endInValue [])
  | w :: ws, c :: cs => if c = w then word ws cs else .error (.next .noWord (c :: cs))

/-- The four hexadecimal digits of an escape. -/
def hexQuad (cs : List Char) : Except (Fault Flaw) (Nat × List Char) :=
  match cs with
  | a :: b :: c :: d :: rest =>
    match Text.hexValue? a, Text.hexValue? b, Text.hexValue? c, Text.hexValue? d with
    | some a, some b, some c, some d => .ok (4096 * a + 256 * b + 16 * c + d, rest)
    | _, _, _, _ => .error (.into 4 .badEscape cs)
  | _ =>
    if Text.byteLength cs < 4 then .error (.before .endInString [])
    else .error (.into 4 .badEscape cs)

def simpleEscape? (c : Char) : Option Char :=
  match c with
  | '"' => some '"'
  | '\\' => some '\\'
  | '/' => some '/'
  | 'b' => some '\x08'
  | 'f' => some '\x0c'
  | 'n' => some '\n'
  | 'r' => some '\r'
  | 't' => some '\t'
  | _ => none

/-- The second half of a surrogate pair, after the digits of its first half. -/
def lowSurrogate (high : Nat) (cs : List Char) : Except (Fault Flaw) (Char × List Char) :=
  match cs with
  | [] => .error (.before .endInString [])
  | '\\' :: rest =>
    match rest with
    | [] => .error (.before .endInString [])
    | 'u' :: rest => do
      let (low, rest) ← hexQuad rest
      if 0xDC00 ≤ low ∧ low ≤ 0xDFFF then
        .ok (Char.ofNat ((high - 0xD800) * 1024 + (low - 0xDC00) + 0x10000), rest)
      else .error (.before .loneSurrogate rest)
    | _ => .error (.next .halfSurrogatePair rest)
  | _ => .error (.next .halfSurrogatePair cs)

/-- What follows the backslash of an escape. -/
def escape (cs : List Char) : Except (Fault Flaw) (Char × List Char) :=
  match cs with
  | [] => .error (.before .endInString [])
  | 'u' :: rest => do
    let (n, rest) ← hexQuad rest
    if 0xDC00 ≤ n ∧ n ≤ 0xDFFF then .error (.before .loneSurrogate rest)
    else if 0xD800 ≤ n ∧ n ≤ 0xDBFF then lowSurrogate n rest
    else .ok (Char.ofNat n, rest)
  | c :: rest =>
    match simpleEscape? c with
    | some e => .ok (e, rest)
    | none => .error (.next .badEscape cs)

/-- The same extent as an escape, whatever character it stands for. -/
def skipEscape (cs : List Char) : Except (Fault Flaw) (List Char) :=
  match cs with
  | [] => .error (.before .endInString [])
  | 'u' :: rest => do
    let (_, rest) ← hexQuad rest
    .ok rest
  | c :: rest => if (simpleEscape? c).isSome then .ok rest else .error (.next .badEscape cs)

/-- The characters of a string up to its closing quote. -/
def stringBody : Nat → List Char → Except (Fault Flaw) (List Char × List Char)
  | 0, cs => .error (.before .endInString cs)
  | fuel + 1, cs =>
    match cs with
    | [] => .error (.before .endInString [])
    | '"' :: rest => .ok ([], rest)
    | '\\' :: rest => do
      let (c, rest) ← escape rest
      let (body, rest) ← stringBody fuel rest
      .ok (c :: body, rest)
    | c :: rest =>
      if c < ' ' then .error (.next .controlInString cs)
      else do
        let (body, rest) ← stringBody fuel rest
        .ok (c :: body, rest)

/-- A string after its opening quote. -/
def string (cs : List Char) : Except (Fault Flaw) (String × List Char) := do
  let (body, rest) ← stringBody (cs.length + 1) cs
  .ok (String.ofList body, rest)

def skipStringBody : Nat → List Char → Except (Fault Flaw) (List Char)
  | 0, cs => .error (.before .endInString cs)
  | fuel + 1, cs =>
    match cs with
    | [] => .error (.before .endInString [])
    | '"' :: rest => .ok rest
    | '\\' :: rest => do skipStringBody fuel (← skipEscape rest)
    | c :: rest =>
      if c < ' ' then .error (.before .controlInString cs) else skipStringBody fuel rest

/-- Passes over a string without asking whether its surrogates pair up. -/
def skipString (cs : List Char) : Except (Fault Flaw) (List Char) :=
  skipStringBody (cs.length + 1) cs

end ZigbeeBridge.Json
