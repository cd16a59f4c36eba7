/-!
Lines and columns of a text. Lines count from one; a column counts the bytes since the last line
break.
-/
namespace ZigbeeBridge.Text

structure Position where
  line : Nat
  column : Nat
  deriving DecidableEq, Repr

namespace Position

def start : Position := ⟨1, 0⟩

/-- Moves over as many bytes of the text; a part of a character counts as its bytes. -/
def advance (p : Position) : Nat → List Char → Position
  | 0, _ => p
  | _ + 1, [] => p
  | bytes + 1, c :: cs =>
    if c = '\n' then advance ⟨p.line + 1, 0⟩ bytes cs
    else if c.utf8Size ≤ bytes + 1 then
      advance ⟨p.line, p.column + c.utf8Size⟩ (bytes + 1 - c.utf8Size) cs
    else ⟨p.line, p.column + (bytes + 1)⟩
termination_by _ cs => cs.length

end Position

end ZigbeeBridge.Text
