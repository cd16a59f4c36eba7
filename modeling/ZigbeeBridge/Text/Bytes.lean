/-!
Characters from bytes in UTF-8. Where bytes are no character, the longest part that could have
begun one, or else a single byte, becomes the replacement character.
-/
namespace ZigbeeBridge.Text

def replacement : Char := Char.ofNat 0xFFFD

/-- What a first byte asks for: its own bits, how many bytes more, and the bounds of the next. -/
structure Lead where
  bits : Nat
  more : Nat
  low : UInt8
  high : UInt8

def Lead.of? (b : UInt8) : Option Lead :=
  let n := b.toNat
  if n < 0x80 then some ⟨n, 0, 0x80, 0xBF⟩
  else if 0xC2 ≤ n ∧ n ≤ 0xDF then some ⟨n - 0xC0, 1, 0x80, 0xBF⟩
  else if n = 0xE0 then some ⟨0, 2, 0xA0, 0xBF⟩
  else if n = 0xED then some ⟨0xD, 2, 0x80, 0x9F⟩
  else if 0xE1 ≤ n ∧ n ≤ 0xEF then some ⟨n - 0xE0, 2, 0x80, 0xBF⟩
  else if n = 0xF0 then some ⟨0, 3, 0x90, 0xBF⟩
  else if n = 0xF4 then some ⟨4, 3, 0x80, 0x8F⟩
  else if 0xF1 ≤ n ∧ n ≤ 0xF3 then some ⟨n - 0xF0, 3, 0x80, 0xBF⟩
  else none

/-- A byte between two characters: what it makes complete, and what it begins. -/
def startByte (b : UInt8) : List Char × Option Lead :=
  match Lead.of? b with
  | none => ([replacement], none)
  | some lead => if lead.more = 0 then ([Char.ofNat lead.bits], none) else ([], some lead)

/-- A byte inside a character; one that does not belong there begins anew. -/
def nextByte (lead : Lead) (b : UInt8) : List Char × Option Lead :=
  if lead.low ≤ b ∧ b ≤ lead.high then
    let bits := lead.bits * 64 + (b.toNat - 0x80)
    if lead.more = 1 then ([Char.ofNat bits], none)
    else ([], some ⟨bits, lead.more - 1, 0x80, 0xBF⟩)
  else
    let (chars, next) := startByte b
    (replacement :: chars, next)

/-- The bytes one by one, inside a character or between two. -/
def decodeFrom : Option Lead → List UInt8 → List Char
  | none, [] => []
  | some _, [] => [replacement]
  | none, b :: bs => (startByte b).1 ++ decodeFrom (startByte b).2 bs
  | some lead, b :: bs => (nextByte lead b).1 ++ decodeFrom (nextByte lead b).2 bs

def decodeBytes (bytes : List UInt8) : String := String.ofList (decodeFrom none bytes)

end ZigbeeBridge.Text
