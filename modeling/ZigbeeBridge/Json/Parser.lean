import ZigbeeBridge.Json.Token
import ZigbeeBridge.Json.Numeral

/-!
Reading a JSON document. An object keeps the first place and the last value of a repeated key;
`members` gives them as written. A document may nest 127 levels deep.
-/
namespace ZigbeeBridge.Json

open Data Numeral

variable {α : Type}

/-- The elements of an array after its opening bracket, up to its closing one. -/
def elements (item : Reader Flaw α) (first : Bool) : Nat → Reader Flaw (List α)
  | 0, cs => .error (.before .endInArray cs)
  | fuel + 1, cs =>
    match skipBlank cs with
    | [] => .error (.before .endInArray [])
    | c :: rest =>
      if c = ']' then .ok ([], rest)
      else if first then do
        let (x, rest) ← item (c :: rest)
        let (xs, rest) ← elements item false fuel rest
        .ok (x :: xs, rest)
      else if c = ',' then
        match skipBlank rest with
        | [] => .error (.before .endInValue [])
        | ']' :: rest => .error (.next .commaAtEnd (']' :: rest))
        | start => do
          let (x, rest) ← item start
          let (xs, rest) ← elements item false fuel rest
          .ok (x :: xs, rest)
      else .error (.next .noCommaInArray (c :: rest))

/-- The rest after the colon between a key and its value. -/
def colon (cs : List Char) : Except (Fault Flaw) (List Char) :=
  match skipBlank cs with
  | [] => .error (.before .endInObject [])
  | ':' :: rest => .ok rest
  | rest => .error (.next .noColon rest)

/-- The next key of an object, or none at its closing brace; the first needs no comma. -/
def nextKey (first : Bool) (cs : List Char) :
    Except (Fault Flaw) (Option String × List Char) :=
  match skipBlank cs with
  | [] => .error (.before .endInObject [])
  | c :: rest =>
    if c = '\x7d' then .ok (none, c :: rest)
    else if first then
      if c = '"' then do
        let (key, rest) ← string rest
        .ok (some key, rest)
      else .error (.next .keyNotString (c :: rest))
    else if c = ',' then
      match skipBlank rest with
      | [] => .error (.before .endInValue [])
      | '"' :: rest => do
        let (key, rest) ← string rest
        .ok (some key, rest)
      | '\x7d' :: rest => .error (.next .commaAtEnd ('\x7d' :: rest))
      | rest => .error (.next .keyNotString rest)
    else .error (.next .noCommaInObject (c :: rest))

/-- The members of an object after its opening brace, repeated keys included. -/
def pairs (item : Reader Flaw α) (first : Bool) : Nat → Reader Flaw (List (String × α))
  | 0, cs => .error (.before .endInObject cs)
  | fuel + 1, cs => do
    let (key?, rest) ← nextKey first cs
    match key? with
    | none => .ok ([], rest.drop 1)
    | some key =>
      let rest ← colon rest
      let (x, rest) ← item rest
      let (xs, rest) ← pairs item false fuel rest
      .ok ((key, x) :: xs, rest)

/-- A value at most so many levels deep. -/
def value : Nat → Reader Flaw Value
  | depth, cs =>
    match skipBlank cs with
    | [] => .error (.before .endInValue [])
    | c :: rest =>
      match c with
      | 'n' => do .ok (.null, ← word "ull".toList rest)
      | 't' => do .ok (.bool true, ← word "rue".toList rest)
      | 'f' => do .ok (.bool false, ← word "alse".toList rest)
      | '"' => do
        let (s, rest) ← string rest
        .ok (.string s, rest)
      | '-' => do
        let (n, rest) ← number true rest
        .ok (.number n, rest)
      | '[' =>
        match depth with
        | 0 => .error (.next .tooDeep (c :: rest))
        | depth + 1 => do
          let (vs, rest) ← elements (value depth) true (rest.length + 1) rest
          .ok (.array vs, rest)
      | '\x7b' =>
        match depth with
        | 0 => .error (.next .tooDeep (c :: rest))
        | depth + 1 => do
          let (ms, rest) ← pairs (value depth) true (rest.length + 1) rest
          .ok (.object (Entries.ofList ms), rest)
      | c =>
        if isDigit c then do
          let (n, rest) ← number false (c :: rest)
          .ok (.number n, rest)
        else .error (.next .noValue (c :: rest))

def maxDepth : Nat := 127

/-- Nothing but blanks may follow. -/
def finish (cs : List Char) : Except (Fault Flaw) Unit :=
  match skipBlank cs with
  | [] => .ok ()
  | rest => .error (.next .extraText rest)

def document (cs : List Char) : Except (Fault Flaw) Value := do
  let (v, rest) ← value maxDepth cs
  finish rest
  .ok v

def parse (text : String) : Except String Value :=
  (document text.toList).mapError (·.message Flaw.message text)

/-- The members of the object that a text consists of, as written. -/
def members? (text : String) : Option (List (String × Value)) :=
  match skipBlank text.toList with
  | '\x7b' :: rest =>
    match pairs (value (maxDepth - 1)) true (rest.length + 1) rest with
    | .ok (ms, rest) => if (skipBlank rest).isEmpty then some ms else none
    | .error _ => none
  | _ => none

end ZigbeeBridge.Json
