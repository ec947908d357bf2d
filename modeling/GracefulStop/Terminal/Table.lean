import GracefulStop.Text.Width

/-!
# Tables

A table is drawn with lines around it, between its columns and between its rows. A column is as wide
as its widest line with a blank on each side, and a row as high as its highest cell.
-/

namespace GracefulStop.Terminal

/-- Rows of cells, under a header if there is one. All rows have the same number of cells. -/
structure Table where
  header : Option (List String) := none
  rows : List (List String)
  deriving DecidableEq, Repr, Inhabited

namespace Table

/-- The lines of a cell, one at least. -/
def cellLines (cell : String) : List String := cell.splitOn "\n"

/-- All rows, the header first. -/
def allRows (table : Table) : List (List String) := table.header.toList ++ table.rows

/-- How wide a cell is without the blanks beside it. -/
def cellWidth (cell : String) : Nat := ((cellLines cell).map Text.width).foldl max 1

/-- How wide columns have to be for one more row. -/
def widen : List Nat → List String → List Nat
  | [], cells => cells.map cellWidth
  | widths, [] => widths
  | width :: widths, cell :: cells => max width (cellWidth cell) :: widen widths cells

/-- The widths of the columns without the blanks beside them. -/
def widths (table : Table) : List Nat := table.allRows.foldl widen []

/-- The characters of a line that crosses a table: at its start, along it, between columns, at its
end. -/
structure Rule where
  start : String
  along : Char
  between : String
  stop : String

/-- The lines above a table, under its header, between its rows, and below it. -/
def topRule : Rule := ⟨"╭", '─', "┬", "╮"⟩
def headerRule : Rule := ⟨"╞", '═', "╪", "╡"⟩
def rowRule : Rule := ⟨"├", '╌', "┼", "┤"⟩
def bottomRule : Rule := ⟨"╰", '─', "┴", "╯"⟩

/-- A line that crosses a table with columns of these widths. -/
def Rule.draw (rule : Rule) (widths : List Nat) : String :=
  rule.start ++
    String.intercalate rule.between
      (widths.map fun width => String.ofList (List.replicate (width + 2) rule.along)) ++
    rule.stop

/-- A text with blanks after it, up to a width. -/
def padded (width : Nat) (text : String) : String :=
  text ++ String.ofList (List.replicate (width - Text.width text) ' ')

/-- One line of a row: the lines of its cells side by side. -/
def lineOf (widths : List Nat) (texts : List String) : String :=
  "│" ++
    String.intercalate "┆" ((widths.zip texts).map fun (width, text) =>
      " " ++ padded width text ++ " ") ++
    "│"

/-- The lines of a row. -/
def rowLines (widths : List Nat) (cells : List String) : List String :=
  let parts := cells.map cellLines
  let height := (parts.map List.length).foldl max 0
  (List.range height).map fun index => lineOf widths (parts.map fun part => part.getD index "")

/-- The lines of rows, with a line between each two. -/
def bodyLines (widths : List Nat) : List (List String) → List String
  | [] => []
  | [row] => rowLines widths row
  | row :: rest => rowLines widths row ++ rowRule.draw widths :: bodyLines widths rest

/-- The lines of a table. -/
def lines (table : Table) : List String :=
  let widths := table.widths
  let head := match table.header with
    | some header => rowLines widths header ++ [headerRule.draw widths]
    | none => []
  topRule.draw widths :: (head ++ bodyLines widths table.rows ++ [bottomRule.draw widths])

/-- The text of a table. -/
def text (table : Table) : String := String.intercalate "\n" table.lines

end Table

end GracefulStop.Terminal
