import SwitchFleet.Text.Blank
import SwitchFleet.Text.Casing

/-!
# Tables

A table is written as one line per row, with its columns next to each other and three spaces between
them. The first row holds the headers in upper case. A column is as wide as the longest of its cells
has bytes, and shorter cells are filled up with spaces, counted in characters. A line can be made only
if the width of each of its columns fits into sixteen bits.

* `Table.widths`: the widths of the columns.
* `Table.fullLine?`, `Table.line?`: the line of a row, with and without the blanks at its end.
* `Table.lines`: the lines of a table.
-/

namespace SwitchFleet.Table

/-- The space between two columns. -/
def gap : String := "   "

/-- The widths of the columns, given the widths that they have at least. -/
def widen : List Nat → List String → List Nat
  | w :: ws, cell :: cells => max w cell.utf8ByteSize :: widen ws cells
  | ws, _ => ws

/-- The widths of the columns. -/
def widths (headers : List String) (rows : List (List String)) : List Nat :=
  rows.foldl widen (headers.map String.utf8ByteSize)

/-- The largest width to which a cell can be filled up. -/
def widthLimit : Nat := 0xFFFF

/-- A cell, filled up to the width of its column. -/
def padded (width : Nat) (cell : String) : String :=
  cell ++ String.ofList (List.replicate (width - cell.length) ' ')

/-- A cell, filled up to the width of its column if this can be done. -/
def padded? (width : Nat) (cell : String) : Option String :=
  if width ≤ widthLimit then some (padded width cell) else none

/-- The row as a line with all of its columns filled up. -/
def fullLine? (ws : List Nat) (row : List String) : Option String := do
  let cells ← (ws.zip row).mapM fun c => padded? c.1 c.2
  return gap.intercalate cells

/-- The line of a row, without blanks at its end. -/
def line? (ws : List Nat) (row : List String) : Option String :=
  (fullLine? ws row).map Text.trimEndString

/-- The lines of a table, in the order in which they are made and written. -/
def lines (headers : List String) (rows : List (List String)) : List (Option String) :=
  let headers := headers.map Text.upper
  (headers :: rows).map (line? (widths headers rows))

end SwitchFleet.Table
