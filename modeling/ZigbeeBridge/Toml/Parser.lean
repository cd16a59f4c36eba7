import ZigbeeBridge.Toml.Lexis
import ZigbeeBridge.Toml.Scalar
import ZigbeeBridge.Toml.Table

/-!
Reading a TOML document.
-/
namespace ZigbeeBridge.Toml

open Data

variable {α : Type}

/-- A fault of the tables, at the place where it came up. -/
def located (rest : List Char) (result : Except String α) : Except Flaw α :=
  result.mapError fun message => ⟨message, Text.byteLength rest⟩

/-- The elements of an array after its opening bracket; a comma may follow the last. -/
def arrayItems (item : Reader Value) : Nat → Reader (List Value)
  | 0, cs => fail cs
  | fuel + 1, cs =>
    match skipLines (cs.length + 1) cs with
    | ']' :: rest => .ok ([], rest)
    | start => do
      let (v, rest) ← item start
      match skipLines (rest.length + 1) rest with
      | ',' :: rest =>
        let (vs, rest) ← arrayItems item fuel rest
        .ok (v :: vs, rest)
      | ']' :: rest => .ok ([v], rest)
      | rest => fail rest

/-- A key path, an equals sign and a value. -/
def pair (item : Reader Value) : Reader (List String × Value) := fun cs => do
  let (path, rest) ← keyPath (cs.length + 1) cs
  match rest with
  | '=' :: rest =>
    let (v, rest) ← item (skipBlank rest)
    .ok ((path, v), rest)
  | rest => fail rest

/-- The pairs of an inline table after its opening brace, added to those before. -/
def inlinePairs (item : Reader Value) : Nat → Table → Reader Table
  | 0, _, cs => fail cs
  | fuel + 1, table, cs => do
    let ((path, v), rest) ← pair item cs
    let table ← located cs (assignAt path v table)
    match skipBlank rest with
    | ',' :: rest => inlinePairs item fuel table rest
    | '\x7d' :: rest => .ok (table, rest)
    | rest => fail rest

def inlineTable (item : Reader Value) : Reader Value := fun cs => do
  match skipBlank cs with
  | '\x7d' :: rest => .ok (.object [], rest)
  | start =>
    let (table, rest) ← inlinePairs item (start.length + 1) [] start
    .ok (.object (tableMembers table), rest)

/-- A value at most so many levels deep. -/
def value : Nat → Reader Value
  | depth, cs =>
    match cs, depth with
    | '[' :: rest, depth + 1 => do
      let (vs, rest) ← arrayItems (value depth) (rest.length + 1) rest
      .ok (.array vs, rest)
    | '\x7b' :: rest, depth + 1 => inlineTable (value depth) rest
    | '"' :: _, _ | '\'' :: _, _ => do
      let (s, rest) ← string cs
      .ok (.string s, rest)
    | cs, _ =>
      let n := wordLength cs
      match scalar? (cs.take n) with
      | some v => .ok (v, cs.drop n)
      | none => fail cs

def maxDepth : Nat := 79

/-- The tables so far, and the path of the one that is open. -/
structure Draft where
  root : Table
  current : List String

/-- A header after its opening brackets. -/
def header (array : Bool) (draft : Draft) : Reader Draft := fun cs => do
  let (path, rest) ← keyPath (cs.length + 1) cs
  let rest ← match array, rest with
    | true, ']' :: ']' :: rest => .ok rest
    | false, ']' :: rest => .ok rest
    | _, rest => fail rest
  let name := path.getLastD ""
  let change (_ : Origin) (table : Table) :=
    if array then openNext name table else openTable name table
  let root ← located cs (changeAt false change path.dropLast .header draft.root)
  .ok (⟨root, path⟩, rest)

/-- A key and its value in the table that is open. -/
def entry (draft : Draft) : Reader Draft := fun cs => do
  let ((path, v), rest) ← pair (value maxDepth) cs
  let change (_ : Origin) (table : Table) := assignAt path v table
  let root ← located cs (changeAt false change draft.current .header draft.root)
  .ok (⟨root, draft.current⟩, rest)

def line (draft : Draft) : Reader Draft
  | '[' :: '[' :: rest => header true draft rest
  | '[' :: rest => header false draft rest
  | cs => entry draft cs

def document : Nat → Draft → List Char → Except Flaw Table
  | 0, draft, _ => .ok draft.root
  | fuel + 1, draft, cs =>
    match skipLines (cs.length + 1) cs with
    | [] => .ok draft.root
    | start => do
      let (draft, rest) ← line draft start
      document fuel draft (← lineEnd rest)

/-- The members of the document; a byte order mark in front does not count. -/
def parse (text : String) : Except Flaw (Entries Value) := do
  let cs := match text.toList with
    | '\ufeff' :: cs => cs
    | cs => cs
  .ok (tableMembers (← document (cs.length + 1) ⟨[], []⟩ cs))

end ZigbeeBridge.Toml
