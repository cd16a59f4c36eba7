import ZigbeeBridge.Text.Normal
import ZigbeeBridge.Text.Unprintable
import ZigbeeBridge.Url.ScriptTable

/-!
What the scripts ask of the labels of a domain name. A label does not begin with a mark, and an
invisible joiner stands where it makes a difference. Where one label has letters that are written
from right to left, no label mixes the two ways.
-/
namespace ZigbeeBridge.Url.Script

open Text

def rightToLeft : RangeTable := .ofText ScriptTable.rightToLeft

def arabicDigits : RangeTable := .ofText ScriptTable.arabicDigits

def digits : RangeTable := .ofText ScriptTable.digits

def neutral : RangeTable := .ofText ScriptTable.neutral

def spacingMarks : RangeTable := .ofText ScriptTable.spacingMarks

def joinBoth : RangeTable := .ofText ScriptTable.joinBoth

def joinBefore : RangeTable := .ofText ScriptTable.joinBefore

def isJoiner (c : Char) : Bool := c == '\u200c' || c == '\u200d'

/-- A mark that takes up no space. -/
def isOverlaid (c : Char) : Bool :=
  0x80 ≤ c.toNat && isUnprintable c && !isJoiner c && !spacingMarks.contains c

def isMark (c : Char) : Bool := isOverlaid c || spacingMarks.contains c

/-- The mark that suppresses a vowel. -/
def isVirama (c : Char) : Bool := Normal.markClass c.toNat == 9

/-- The letters next to a place join there, whatever marks they have. -/
def joined (before after : List Char) : Bool :=
  (before.dropWhile isOverlaid).head?.any joinBoth.contains &&
    (after.dropWhile isOverlaid).head?.any fun c => joinBoth.contains c || joinBefore.contains c

/-- A joiner stands behind a virama; one that keeps letters apart also where they would join. -/
def joinersFit (before : List Char) : List Char → Bool
  | [] => true
  | c :: cs =>
    (!isJoiner c || before.head?.any isVirama || (c == '\u200c' && joined before cs)) &&
      joinersFit (c :: before) cs

def isSound (label : List Char) : Bool := !label.head?.any isMark && joinersFit [] label

/-- How a character goes with the way in which a label is written. -/
inductive Kind where
  | left
  | right
  | digit
  | arabicDigit
  | mark
  | neutral
  deriving DecidableEq, Repr

def kind (c : Char) : Kind :=
  if c.toNat < 0x80 then if c.isAlpha then .left else if c.isDigit then .digit else .neutral
  else if rightToLeft.contains c then .right
  else if arabicDigits.contains c then .arabicDigit
  else if digits.contains c then .digit
  else if isJoiner c || neutral.contains c then .neutral
  else if isOverlaid c then .mark
  else .left

/-- A label whose first and last letters and all between go the same way. -/
def isOneWay (label : List Char) : Bool :=
  let kinds := label.map kind
  let last := (kinds.reverse.dropWhile (· == .mark)).head?
  match kinds with
  | [] => true
  | .left :: _ =>
    (last == some .left || last == some .digit) &&
      !kinds.contains .right && !kinds.contains .arabicDigit
  | .right :: _ =>
    last != some .neutral && !kinds.contains .left &&
      !(kinds.contains .digit && kinds.contains .arabicDigit)
  | _ => false

/-- Where nothing goes from right to left, nothing is asked of the labels. -/
def agree (labels : List (List Char)) : Bool :=
  let goesRight (c : Char) : Bool := kind c == .right || kind c == .arabicDigit
  !labels.any (·.any goesRight) || labels.all isOneWay

end ZigbeeBridge.Url.Script
