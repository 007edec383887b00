import EntityStore.Text.Blank
import EntityStore.Value

/-!
# Tables as text

A table of texts is laid out in columns: each is as wide as its longest cell, cells
are filled up with spaces on the right and set apart by bars, and blanks at the end
of a line are left out.  Under the headings stands a line of dashes, and at the end
the number of rows.

A row with fewer cells than there are headings goes on with empty cells; further
cells are left out.

A cell is filled up to sixteen bits of width at most: a table with a wider column is not
laid out at all.
-/

set_option autoImplicit false

namespace EntityStore

/-- Headings and rows of texts. -/
structure TextTable where
  headings : List String
  rows : List (List String) := []
  deriving DecidableEq, Repr

namespace TextTable

/-- The table of values by their text forms. -/
def ofValues (headings : List String) (rows : List Row) : TextTable :=
  { headings, rows := rows.map fun row => row.map Value.shown }

/-- The length of the longest cell of a column. -/
def width (table : TextTable) (column : Nat) : Nat :=
  (table.headings :: table.rows).foldl
    (fun widest cells => max widest (cells.getD column "").length) 0

/-- The widths of all columns. -/
def widths (table : TextTable) : List Nat :=
  (List.range table.headings.length).map table.width

/-- The greatest width that a cell can be filled up to. -/
def widestColumn : Nat := 0xFFFF

/-- A cell filled up with spaces. -/
def padded (width : Nat) (cell : String) : List Char :=
  cell.toList ++ List.replicate (width - cell.length) ' '

/-- The cells of a row, one for each width. -/
def paddedCells : List Nat → List String → List (List Char)
  | [], _ => []
  | width :: widths, [] => padded width "" :: paddedCells widths []
  | width :: widths, cell :: cells => padded width cell :: paddedCells widths cells

/-- A row without blanks at its end. -/
def line (widths : List Nat) (cells : List String) : List Char :=
  Text.trimEnd (List.intercalate [' ', '|', ' '] (paddedCells widths cells))

/-- The dashes under the headings. -/
def rule (widths : List Nat) : List Char :=
  List.intercalate ['-', '+', '-'] (widths.map fun width => List.replicate width '-')

/-- The lines of the table up to the last row. -/
def lines (table : TextTable) : List (List Char) :=
  line table.widths table.headings :: rule table.widths :: table.rows.map (line table.widths)

/-- The text of the table, if it can be laid out. -/
def text? (table : TextTable) : Option String :=
  if table.headings.isEmpty then some "Empty result set\n"
  else if table.widths.any fun width => widestColumn < width then none
  else
    some (String.ofList (table.lines.flatMap fun line => line ++ ['\n']) ++
      s!"\n{table.rows.length} row(s)\n")

end TextTable

end EntityStore
