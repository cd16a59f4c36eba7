import ZigbeeBridge.Data.Value

/-!
Tables while a document is read. Each of them knows how it came to be, because that decides what
may still be added to it.
-/
namespace ZigbeeBridge.Toml

open Data

inductive Origin where
  /-- By a header of its own. -/
  | header
  /-- On the way to a table below it. -/
  | passing
  /-- By dots in a key. -/
  | dots
  deriving DecidableEq, Repr

inductive Node where
  | leaf (value : Value)
  | table (origin : Origin) (entries : List (String × Node))
  | tables (list : List (List (String × Node)))

abbrev Table := Entries Node

mutual

def Node.value : Node → Value
  | .leaf v => v
  | .table _ entries => .object (tableMembers entries)
  | .tables list => .array (tableList list)

def tableMembers : List (String × Node) → List (String × Value)
  | [] => []
  | (key, node) :: rest => (key, node.value) :: tableMembers rest

def tableList : List (List (String × Node)) → List Value
  | [] => []
  | entries :: rest => .object (tableMembers entries) :: tableList rest

end

/-- A key that is taken. -/
def taken (key : String) : String := s!"duplicate key `{key}`"

/-- Changes the table at the end of a path, given how it came to be; the tables on the way are made
where they are missing. Dots do not lead into a table with a header of its own. -/
def changeAt (dotted : Bool) (change : Origin → Table → Except String Table) :
    List String → Origin → Table → Except String Table
  | [], origin, table => change origin table
  | key :: path, _, table => do
    let made := if dotted then Origin.dots else Origin.passing
    match table.get? key with
    | none => .ok (table.put key (.table made (← changeAt dotted change path made [])))
    | some (.table origin entries) =>
      if dotted ∧ origin = .header then throw (taken key)
      else .ok (table.put key (.table origin (← changeAt dotted change path origin entries)))
    | some (.tables list) =>
      let last ← changeAt dotted change path .header (list.getLast?.getD [])
      .ok (table.put key (.tables (list.dropLast ++ [last])))
    | some (.leaf _) => throw (taken key)

/-- Opens the table of a header. -/
def openTable (key : String) (table : Table) : Except String Table :=
  match table.get? key with
  | none => .ok (table.put key (.table .header []))
  | some (.table .passing entries) => .ok (table.put key (.table .header entries))
  | some _ => throw (taken key)

/-- Opens one more table of an array. -/
def openNext (key : String) (table : Table) : Except String Table :=
  match table.get? key with
  | none => .ok (table.put key (.tables [[]]))
  | some (.tables list) => .ok (table.put key (.tables (list ++ [[]])))
  | some _ => throw (taken key)

/-- Gives a key its value; a table reached by dots must have come to be by dots. -/
def assign (key : String) (dotted : Bool) (value : Value) (origin : Origin) (table : Table) :
    Except String Table :=
  if dotted ∧ origin ≠ .dots ∨ (table.get? key).isSome then throw (taken key)
  else .ok (table.put key (.leaf value))

/-- Gives the key at the end of a path its value. -/
def assignAt (path : List String) (value : Value) (table : Table) : Except String Table :=
  match path.reverse with
  | [] => .ok table
  | key :: front =>
    changeAt true (assign key (!front.isEmpty) value) front.reverse .header table

end ZigbeeBridge.Toml
