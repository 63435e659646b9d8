import ScenarioRunner.Text.Lines

/-!
# Tables with borders

A table has a head and rows, all of the same number of columns.  A cell may
have several lines, which stand below each other; all columns are as wide as
their widest line.  How wide a line is depends on what shows it, so a table is
drawn with a function that measures lines.
-/

namespace ScenarioRunner.Console

/-- The lines of a cell. -/
def cellLines (cell : String) : List (List Char) :=
  Text.lines cell.toList

/-- The width of a column whose head is so wide. -/
def columnWidth (width : List Char → Nat) (least : Nat)
    (cells : List String) : Nat :=
  (cells.flatMap cellLines).foldl (fun widest line => max widest (width line))
    least

/-- A table: the names of its columns, and its rows. -/
structure Table where
  head : List String
  rows : List (List String)
  deriving DecidableEq, Repr

namespace Table

variable (width : List Char → Nat)

/-- The widths of the columns. -/
def widths (table : Table) : List Nat :=
  table.head.zipIdx.map fun (name, index) =>
    columnWidth width (width name.toList)
      (table.rows.map fun row => row.getD index "")

/-- A line between rows. -/
def border (left middle right : String) (widths : List Nat) : String :=
  left ++ middle.intercalate
    (widths.map fun columns =>
      String.ofList (List.replicate (columns + 2) '─')) ++ right

/-- The text of a cell, filled up with blanks. -/
def padded (line : List Char) (columns : Nat) : String :=
  String.ofList
    (' ' :: line ++ List.replicate (columns - width line) ' ' ++ [' '])

/-- A line of text. -/
def textLine (widths : List Nat) (cells : List (List Char)) : String :=
  "│" ++ "│".intercalate (List.zipWith (padded width) cells widths) ++ "│"

/-- The number of lines of a row, which is not zero. -/
def height (row : List String) : Nat :=
  row.foldl (fun highest cell => max highest (cellLines cell).length) 1

/-- The lines of text of a row. -/
def rowLines (widths : List Nat) (row : List String) : List String :=
  (List.range (height row)).map fun index =>
    textLine width widths
      (row.map fun cell => (cellLines cell).getD index [])

/-- The lines of a table. -/
def lines (table : Table) : List String :=
  let widths := table.widths width
  [border "┌" "┬" "┐" widths,
    textLine width widths (table.head.map String.toList)] ++
  table.rows.flatMap (fun row =>
    border "├" "┼" "┤" widths :: rowLines width widths row) ++
  [border "└" "┴" "┘" widths]

/-- A table as text. -/
def render (table : Table) : String :=
  "\n".intercalate (table.lines width)

end Table

end ScenarioRunner.Console
