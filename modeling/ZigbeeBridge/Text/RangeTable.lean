import ZigbeeBridge.Text.Hex

/-!
Tables about characters, read from words of hexadecimal. A row speaks of a range: all of it
(`a-b`, `a*b`), every second character (`a/b`) or a single one (`a`). Its target shifts with the
character (`-`, `/`) or stays (`*`).
-/
namespace ZigbeeBridge.Text

structure RangeRow where
  first : Nat
  last : Nat
  stride : Nat
  shifts : Bool
  target : List Nat
  deriving Repr

namespace RangeRow

def holds (row : RangeRow) (n : Nat) : Bool :=
  row.first ≤ n && n ≤ row.last && (n - row.first) % row.stride == 0

def image (row : RangeRow) (n : Nat) : List Nat :=
  if row.shifts then row.target.map (· + (n - row.first)) else row.target

def extent (first : Nat) (cs : List Char) : RangeRow × List Char :=
  match cs with
  | '-' :: cs => let (last, cs) := hexNumber 0 cs; (⟨first, last, 1, true, []⟩, cs)
  | '/' :: cs => let (last, cs) := hexNumber 0 cs; (⟨first, last, 2, true, []⟩, cs)
  | '*' :: cs => let (last, cs) := hexNumber 0 cs; (⟨first, last, 1, false, []⟩, cs)
  | cs => (⟨first, first, 1, false, []⟩, cs)

def ofWord (word : List Char) : RangeRow :=
  let (first, cs) := hexNumber 0 word
  let (row, cs) := extent first cs
  match cs with
  | ':' :: cs => { row with target := (cs.splitOn '.').map fun part => (hexNumber 0 part).1 }
  | _ => row

end RangeRow

abbrev RangeTable := List RangeRow

namespace RangeTable

def ofText (text : String) : RangeTable :=
  ((text.toList.splitOnP fun c => c = ' ' || c = '\n').filter (!·.isEmpty)).map RangeRow.ofWord

def find? (table : RangeTable) (n : Nat) : Option RangeRow := List.find? (·.holds n) table

def contains (table : RangeTable) (c : Char) : Bool := (table.find? c.toNat).isSome

end RangeTable

end ZigbeeBridge.Text
