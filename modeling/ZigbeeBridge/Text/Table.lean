import ZigbeeBridge.Text.Column

/-!
A table in a frame with round corners: a header, a rule, and rows. A cell may have several lines.
-/
namespace ZigbeeBridge.Text.Table

def cellLines (cell : String) : List String :=
  (cell.toList.splitOn '\n').map String.ofList

def cellWidth (cell : String) : Nat := ((cellLines cell).map columns).foldl max 0

/-- The width of each column, over the header and all rows. -/
def widths (header : List String) (rows : List (List String)) : List Nat :=
  rows.foldl (fun widths row => List.zipWith max widths (row.map cellWidth)) (header.map cellWidth)

def pad (width : Nat) (line : String) : String :=
  line ++ String.ofList (List.replicate (width - columns line) ' ')

def rule (left middle right : String) (widths : List Nat) : String :=
  left ++ middle.intercalate (widths.map fun w => String.ofList (List.replicate (w + 2) '─')) ++
    right

/-- The lines of a row; a cell with fewer lines than another is empty below. -/
def rowLines (widths : List Nat) (row : List String) : List String :=
  let cells := row.map cellLines
  let height := (cells.map List.length).foldl max 0
  (List.range height).map fun i =>
    let line := List.zipWith (fun w cell => pad w (cell.getD i "")) widths cells
    "│ " ++ " │ ".intercalate line ++ " │"

def draw (header : List String) (rows : List (List String)) : String :=
  let ws := widths header rows
  let body := rows.flatMap (rowLines ws)
  "\n".intercalate
    (rule "╭" "┬" "╮" ws :: rowLines ws header ++
      (if rows.isEmpty then [] else rule "├" "┼" "┤" ws :: body) ++ [rule "╰" "┴" "╯" ws])

end ZigbeeBridge.Text.Table
