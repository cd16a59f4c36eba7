import ZigbeeBridge.Text.Position
import ZigbeeBridge.Text.Utf8

/-!
What can be wrong with a JSON text, and where. A fault remembers how much of the text lies behind
it; the line and the column are counted once the whole text is at hand.
-/
namespace ZigbeeBridge.Json

open Text

inductive Flaw where
  | endInValue
  | endInObject
  | endInArray
  | endInString
  | noValue
  | noWord
  | noColon
  | noCommaInObject
  | noCommaInArray
  | commaAtEnd
  | extraText
  | keyNotString
  | badEscape
  | badNumber
  | numberTooLarge
  | loneSurrogate
  | halfSurrogatePair
  | controlInString
  | tooDeep
  deriving DecidableEq, Repr

def Flaw.message : Flaw → String
  | endInValue => "EOF while parsing a value"
  | endInObject => "EOF while parsing an object"
  | endInArray => "EOF while parsing a list"
  | endInString => "EOF while parsing a string"
  | noValue => "expected value"
  | noWord => "expected ident"
  | noColon => "expected `:`"
  | noCommaInObject => "expected `,` or `\x7d`"
  | noCommaInArray => "expected `,` or `]`"
  | commaAtEnd => "trailing comma"
  | extraText => "trailing characters"
  | keyNotString => "key must be a string"
  | badEscape => "invalid escape"
  | badNumber => "invalid number"
  | numberTooLarge => "number out of range"
  | loneSurrogate => "lone leading surrogate in hex escape"
  | halfSurrogatePair => "unexpected end of hex escape"
  | controlInString => "control character (\\u0000-\\u001F) found while parsing a string"
  | tooDeep => "recursion limit exceeded"

/-- A cause and the number of bytes of the text after the place where it shows. -/
structure Fault (ε : Type) where
  cause : ε
  left : Nat
  deriving Repr

namespace Fault

variable {ε : Type}

/-- In front of the rest of the text. -/
def before (cause : ε) (rest : List Char) : Fault ε := ⟨cause, byteLength rest⟩

/-- So many bytes into the rest of the text, or at its end. -/
def into (bytes : Nat) (cause : ε) (rest : List Char) : Fault ε :=
  ⟨cause, byteLength rest - bytes⟩

/-- At the next byte of the rest, or at its end. -/
def next (cause : ε) (rest : List Char) : Fault ε := into 1 cause rest

def map {δ : Type} (f : ε → δ) (fault : Fault ε) : Fault δ := ⟨f fault.cause, fault.left⟩

def position (fault : Fault ε) (text : List Char) : Position :=
  Position.start.advance (byteLength text - fault.left) text

/-- The wording of the cause, then its line and column. -/
def message (describe : ε → String) (fault : Fault ε) (text : String) : String :=
  let p := fault.position text.toList
  s!"{describe fault.cause} at line {p.line} column {p.column}"

end Fault

/-- Reads a beginning of the text and hands on the rest. -/
abbrev Reader (ε α : Type) := List Char → Except (Fault ε) (α × List Char)

end ZigbeeBridge.Json
