import ZigbeeBridge.Text.Normal
import ZigbeeBridge.Url.Basic
import ZigbeeBridge.Url.DomainTable
import ZigbeeBridge.Url.Punycode
import ZigbeeBridge.Url.Script

/-!
Domain names in ASCII. Letters are brought to lower case and to their common forms, and a label
that still holds other characters is written in Punycode after `xn--`.
-/
namespace ZigbeeBridge.Url.Domain

open Text

def forbidden : RangeTable := .ofText DomainTable.forbidden

def ignored : RangeTable := .ofText DomainTable.ignored

def mapped : RangeTable := .ofText DomainTable.mapped

/-- What a character becomes; none for one that may not be there. -/
def mapChar (c : Char) : Option (List Char) :=
  if c.toNat < 0x80 then some [c.toLower]
  else if forbidden.contains c then none
  else if ignored.contains c then some []
  else match mapped.find? c.toNat with
    | some row => some ((row.image c.toNat).map Char.ofNat)
    | none => some [c]

def isAscii (cs : List Char) : Bool := cs.all (·.toNat < 0x80)

def mapAll (cs : List Char) : Option (List Char) := do
  let parts ← cs.mapM mapChar
  some (if isAscii parts.flatten then parts.flatten else Normal.normalize parts.flatten)

/-- Characters of ASCII that end or divide a host. -/
def isReserved (c : Char) : Bool :=
  c ≤ ' ' || c == '\x7f' || ("%#/:<>?@[\\]^|".toList.contains c)

def punycodeMark : List Char := "xn--".toList

/-- A label in its own script that may be there: it is in its common form, and nothing of it becomes
anything else. -/
def isValid (own : List Char) : Bool :=
  own.all (fun c => mapChar c == some [c]) &&
    (isAscii own || (Normal.normalize own == own && Script.isSound own))

/-- The label in its own script, of one that came in Punycode. -/
def decoded? (label : List Char) : Option (List Char) := do
  let own ← Punycode.decode? (label.drop 4)
  if isAscii own ∨ own.contains '.' ∨ punycodeMark.isPrefixOf own ∨ !isValid own then none
  else some own

/-- The label in its own script; none for one that may not be there. -/
def own? (label : List Char) : Option (List Char) :=
  if punycodeMark.isPrefixOf label then if isAscii label then decoded? label else none
  else if isValid label then some label
  else none

def written (own : List Char) : List Char :=
  if isAscii own then own else punycodeMark ++ Punycode.encode own

def toAscii (cs : List Char) : Except Flaw (List Char) :=
  match do (← mapAll cs).splitOn '.' |>.mapM own? with
  | some labels =>
    let name := ['.'].intercalate (labels.map written)
    if name.any isReserved || !Script.agree labels then .error .badDomain else .ok name
  | none => .error .badDomain

end ZigbeeBridge.Url.Domain
