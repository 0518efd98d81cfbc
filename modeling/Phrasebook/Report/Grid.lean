import Phrasebook.Text.Position
import Phrasebook.Text.Width.Juncture

/-!
# Tables of text

A table with a frame around it and a double line below its header. Every cell has a blank on both
sides, every column is as wide as its widest line, and one more blank stands between columns. A
cell takes as many lines as its text has, and a row as many as its tallest cell.
-/

namespace Phrasebook.Grid

/-- The lines of a cell. -/
def cellLines (text : String) : List String :=
  (Text.pieces '\n' text.toList).map String.ofList

def cellWidth (text : String) : Nat :=
  (cellLines text).foldl (fun widest line => max widest (Text.width line)) 0

def columnWidths (header : List String) (rows : List (List String)) : List Nat :=
  rows.foldl (fun widths row => List.zipWith max widths (row.map cellWidth))
    (header.map cellWidth)

/-- A line of a cell between blanks, filled up to a width. -/
def cell (width : Nat) (text : String) : String :=
  " " ++ text ++ "".pushn ' ' (width - Text.width text) ++ " "

/-- A line of cells between the sides of the frame. -/
def row (widths : List Nat) (cells : List String) : String :=
  "│" ++ String.intercalate " " (List.zipWith cell widths cells) ++ "│"

/-- The lines of a row; a cell with fewer lines than the others stands at the top. -/
def rowLines (widths : List Nat) (cells : List String) : List String :=
  let columns := cells.map cellLines
  let height := columns.foldl (fun height column => max height column.length) 0
  (List.range height).map fun index =>
    row widths (columns.map fun column => column[index]?.getD "")

/-- A line across the table. -/
def rule (left line right : Char) (widths : List Nat) : String :=
  let length := (widths.map (· + 2)).foldr (· + ·) 0 + (widths.length - 1)
  left.toString ++ "".pushn line length ++ right.toString

def lines (header : List String) (rows : List (List String)) : List String :=
  let widths := columnWidths header rows
  [rule '┌' '─' '┐' widths] ++ rowLines widths header ++ [rule '╞' '═' '╡' widths]
    ++ rows.flatMap (rowLines widths) ++ [rule '└' '─' '┘' widths]

end Phrasebook.Grid
