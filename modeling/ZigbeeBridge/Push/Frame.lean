import ZigbeeBridge.Gateway.Error
import ZigbeeBridge.Json.Skip
import ZigbeeBridge.Json.Wording
import ZigbeeBridge.Push.Message

/-!
Reading a message from the text of a frame. The text is decoded as it is read, so that a repeated
field is seen, and each fault is reported with its place.
-/
namespace ZigbeeBridge.Push

open Data Json

inductive FrameFlaw where
  | text (flaw : Flaw)
  | shape (error : DecodeError)
  deriving Repr

def FrameFlaw.message : FrameFlaw → String
  | text flaw => flaw.message
  | shape error => wording error

/-- A fault with its place, or an error of the whole message that gets its place where the message
is left. -/
inductive Stop where
  | placed (fault : Fault FrameFlaw)
  | unplaced (error : DecodeError) (rest : List Char)
  deriving Repr

abbrev FieldReader (α : Type) := List Char → Except Stop (α × List Char)

def ofText {α : Type} (result : Except (Fault Flaw) α) : Except Stop α :=
  result.mapError fun fault => .placed (fault.map .text)

/-- What stands at the front, where a scalar is passed over and anything nested is not. -/
def found (cs : List Char) : Except Stop (Found × List Char) :=
  match cs with
  | '[' :: _ => .ok (.sequence, cs)
  | '\x7b' :: _ => .ok (.map, cs)
  | _ => do
    let (v, rest) ← ofText (value 0 cs)
    .ok (.of v, rest)

def mismatch {α : Type} (expected : String) (cs : List Char) : Except Stop α := do
  let (found, rest) ← found cs
  .error (.placed (.before (.shape (.wrongType found expected)) rest))

def textField : FieldReader String := fun cs =>
  match skipBlank cs with
  | [] => ofText (.error (.before .endInValue []))
  | '"' :: rest => ofText (string rest)
  | rest => mismatch "a string" rest

/-- The id, which some gateways give as a number. -/
def idField : FieldReader String := fun cs => do
  let (v, rest) ← ofText (value (maxDepth - 1) cs)
  match v with
  | .string s => .ok (s, rest)
  | .number n => .ok (numberText n, rest)
  | v => .error (.unplaced (.notAnId v) rest)

def stateField : FieldReader (Option (Entries Value)) := fun cs =>
  match skipBlank cs with
  | [] => ofText (.error (.before .endInValue []))
  | 'n' :: rest => do .ok (none, ← ofText (word "ull".toList rest))
  | '\x7b' :: rest => do
    let (ms, rest) ← ofText (pairs (value (maxDepth - 2)) true (rest.length + 1) rest)
    .ok (some (Entries.ofList ms), rest)
  | rest => mismatch "a map" rest

/-- The fields that were read so far. -/
structure Draft where
  resource : Option String
  id : Option String
  state : Option (Option (Entries Value))

def Draft.blank : Draft := ⟨none, none, none⟩

/-- The message, once all of its fields had their turn. -/
def Draft.finish (draft : Draft) (rest : List Char) : Except Stop Message :=
  match draft.resource, draft.id with
  | none, _ => .error (.unplaced (.missingField "r") rest)
  | _, none => .error (.unplaced (.missingField "id") rest)
  | some resource, some id => .ok ⟨resource, id, draft.state.getD none⟩

/-- Reads the value of a field that must not be there yet. -/
def fresh {α : Type} (name : String) (old : Option α) (read : FieldReader α) : FieldReader α :=
  fun cs => do
    if old.isSome then .error (.unplaced (.repeatedField name) cs)
    else read (← ofText (colon cs))

def field (draft : Draft) (key : String) : FieldReader Draft := fun cs => do
  if key = "r" then
    let (s, rest) ← fresh key draft.resource textField cs
    .ok ({ draft with resource := some s }, rest)
  else if key = "id" then
    let (s, rest) ← fresh key draft.id idField cs
    .ok ({ draft with id := some s }, rest)
  else if key = "state" then
    let (s, rest) ← fresh key draft.state stateField cs
    .ok ({ draft with state := some s }, rest)
  else .ok (draft, ← ofText (do skipValue (← colon cs)))

/-- The fields of an object, up to its closing brace. -/
def fields : Nat → Draft → Bool → FieldReader Message
  | 0, _, _, cs => ofText (.error (.before .endInObject cs))
  | fuel + 1, draft, first, cs => do
    let (key?, rest) ← ofText (nextKey first cs)
    match key? with
    | none => .ok (← draft.finish rest, rest)
    | some key =>
      let (draft, rest) ← field draft key rest
      fields fuel draft false rest

/-- The rest in front of the next element of an array, or none at its closing bracket. -/
def nextElement (first : Bool) (cs : List Char) : Except Stop (Option (List Char) × List Char) :=
  match skipBlank cs with
  | [] => ofText (.error (.before .endInArray []))
  | ']' :: rest => .ok (none, ']' :: rest)
  | c :: rest =>
    if first then .ok (some (c :: rest), c :: rest)
    else if c = ',' then
      match skipBlank rest with
      | [] => ofText (.error (.before .endInValue []))
      | ']' :: rest => ofText (.error (.next .commaAtEnd (']' :: rest)))
      | start => .ok (some start, start)
    else ofText (.error (.next .noCommaInArray (c :: rest)))

/-- An element that must be there; `count` of them came before it. -/
def element {α : Type} (count : Nat) (read : FieldReader α) : FieldReader α := fun cs => do
  let (start?, rest) ← nextElement (count == 0) cs
  match start? with
  | some start => read start
  | none => .error (.unplaced (.tooFew count "struct PushMessage with 3 elements") rest)

/-- The fields in their order, as elements of an array. -/
def items : FieldReader Message := fun cs => do
  let (resource, rest) ← element 0 textField cs
  let (id, rest) ← element 1 idField rest
  let (start?, rest) ← nextElement false rest
  match start? with
  | none => .ok (⟨resource, id, none⟩, rest)
  | some start =>
    let (state, rest) ← stateField start
    .ok (⟨resource, id, state⟩, rest)

/-- The rest after the closing bracket of an array that has no elements left. -/
def closeArray (cs : List Char) : Except (Fault Flaw) (List Char) :=
  match skipBlank cs with
  | [] => .error (.before .endInArray [])
  | ']' :: rest => .ok rest
  | ',' :: rest =>
    match skipBlank rest with
    | ']' :: rest => .error (.next .commaAtEnd (']' :: rest))
    | rest => .error (.next .extraText rest)
  | rest => .error (.next .extraText rest)

/-- Where an object is left in spite of an error. -/
def leaveObject (cs : List Char) : List Char :=
  match skipBlank cs with
  | '\x7d' :: rest => rest
  | rest => rest

/-- Where an array is left in spite of an error. -/
def leaveArray (cs : List Char) : List Char :=
  match skipBlank cs with
  | ']' :: rest => rest
  | ',' :: rest => skipBlank rest
  | rest => rest

def place {α : Type} (leave : List Char → List Char) (result : Except Stop α) :
    Except (Fault FrameFlaw) α :=
  result.mapError fun stop =>
    match stop with
    | .placed fault => fault
    | .unplaced error rest => .before (.shape error) (leave rest)

/-- A message at the front of a text. -/
def message : Reader FrameFlaw Message := fun cs =>
  match skipBlank cs with
  | [] => .error (.before (.text .endInValue) [])
  | '\x7b' :: rest => do
    let (m, rest) ← place leaveObject (fields (rest.length + 1) .blank true rest)
    .ok (m, rest.drop 1)
  | '[' :: rest => do
    let (m, rest) ← place leaveArray (items rest)
    .ok (m, ← (closeArray rest).mapError (·.map .text))
  | rest => place id (mismatch "struct PushMessage" rest)

def frame (cs : List Char) : Except (Fault FrameFlaw) Message := do
  let (m, rest) ← message cs
  (finish rest).mapError (·.map .text)
  .ok m

def parse (text : String) : Except Gateway.Error Message :=
  (frame text.toList).mapError fun fault =>
    .undecodable (fault.message FrameFlaw.message text) text

end ZigbeeBridge.Push
