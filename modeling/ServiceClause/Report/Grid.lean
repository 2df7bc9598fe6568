import ServiceClause.Text.Split
import ServiceClause.Text.Ligature

/-!
# Grids

A grid shows texts in boxes, below a head that a double line sets apart. A column is as wide as its
widest line, with a space at either side. A text with line breaks takes several lines, and its row
is as high as its highest text.

## Main definitions

* `ServiceClause.Grid` — the texts of a grid.
* `ServiceClause.Grid.columnWidths` — the widths of its columns.
* `ServiceClause.Grid.text` — the grid as it is shown.
-/

set_option autoImplicit false

namespace ServiceClause

/-- The lines of a text in a grid. -/
abbrev Cell := List (List Char)

/-- The cell of a text. -/
def Cell.ofString (s : String) : Cell := partsBetween '\n' s.toList

/-- The columns that a cell needs. -/
def Cell.width (c : Cell) : Nat := (c.map textWidth).foldl max 0

/-- The texts of a grid. Every row has as many cells as the head. -/
structure Grid where
  /-- The cells above the double line. -/
  head : List Cell
  /-- The cells below it. -/
  rows : List (List Cell)

namespace Grid

/-- The width of every column. -/
def columnWidths (g : Grid) : List Nat :=
  g.rows.foldl (fun widths row => List.zipWith max widths (row.map Cell.width))
    (g.head.map Cell.width)

/-- A line with the same part for every column, between the given ends and separators. -/
def line (left separator right : Char) (parts : List (List Char)) : List Char :=
  left :: [separator].intercalate parts ++ [right]

/-- A line that separates rows. -/
def rule (left fill separator right : Char) (widths : List Nat) : List Char :=
  line left separator right (widths.map fun w => List.replicate (w + 2) fill)

/-- A text filled up with spaces to a width, and a space at either side. -/
def padded (width : Nat) (cs : List Char) : List Char :=
  ' ' :: cs ++ List.replicate (width - textWidth cs + 1) ' '

/-- The lines of a row. -/
def rowLines (widths : List Nat) (row : List Cell) : List (List Char) :=
  (List.range ((row.map List.length).foldl max 0)).map fun k =>
    line '│' '┆' '│' (List.zipWith (fun w cell => padded w (cell[k]?.getD [])) widths row)

/-- The lines of the rows below the head, with lines between them. -/
def bodyLines (widths : List Nat) (rows : List (List Cell)) : List (List Char) :=
  [rule '├' '╌' '┼' '┤' widths].intercalate (rows.map (rowLines widths))

/-- The lines of a grid. -/
def lines (g : Grid) : List (List Char) :=
  rule '┌' '─' '┬' '┐' g.columnWidths :: rowLines g.columnWidths g.head ++
    rule '╞' '═' '╪' '╡' g.columnWidths :: bodyLines g.columnWidths g.rows ++
    [rule '└' '─' '┴' '┘' g.columnWidths]

/-- The grid as it is shown; its last line is not ended. -/
def text (g : Grid) : String := String.ofList (['\n'].intercalate g.lines)

end Grid

end ServiceClause
