import DumpDigest.Decimal.Fixed

/-! # Tables

Tables of text cells in a drawn frame. The first column is aligned to the left, all others to the
right, and a column is as wide as its longest cell; a row without a cell for a column leaves it
blank.
-/

namespace DumpDigest

/-- A table with a title and a line of headings. -/
structure Table where
  title : String
  headings : List String
  rows : List (List String)

namespace Table

/-- The number of columns: that of the longest line. -/
def columns (table : Table) : Nat :=
  ((table.headings :: table.rows).map List.length).foldl max 0

/-- The width of a column: the length of its longest cell. -/
def width (table : Table) (column : Nat) : Nat :=
  ((table.headings :: table.rows).filterMap (·[column]?)).foldl
    (fun width cell => max width cell.length) 0

/-- The widths of all columns. -/
def widths (table : Table) : List Nat :=
  (List.range table.columns).map table.width

/-- The line between parts of the table, with its two ends and its crossings. -/
def rule (widths : List Nat) (left crossing right : String) : String :=
  let bars := widths.map fun width => String.ofList (List.replicate (width + 2) '━')
  "  " ++ left ++ crossing.intercalate bars ++ right

/-- A cell filled up with blanks to a width, one blank on either side. -/
def padded (alignLeft : Bool) (cell : String) (width : Nat) : String :=
  let blanks := String.ofList (List.replicate (width - cell.length) ' ')
  " " ++ (if alignLeft then cell ++ blanks else blanks ++ cell) ++ " "

/-- A line of cells. -/
def line (widths : List Nat) (cells : List String) : String :=
  let parts := widths.zipIdx.map fun (width, column) =>
    padded (column == 0) (cells[column]?.getD "") width
  "  ┃" ++ "┃".intercalate parts ++ "┃"

/-- The lines of the whole table. -/
def lines (table : Table) : List String :=
  let widths := table.widths
  ["  " ++ table.title, rule widths "┏" "┳" "┓", line widths table.headings,
      rule widths "┣" "╋" "┫"] ++
    table.rows.map (line widths) ++ [rule widths "┗" "┻" "┛"]

/-- The text of a table, without a line break at its end. -/
def text (table : Table) : String :=
  "\n".intercalate table.lines

end Table

/-- A ratio as a cell shows it. -/
def ratioText (ratio : Float) : String :=
  Decimal.fixed 4 ratio

/-- A fraction as a cell shows it: as a percentage. -/
def percentText (fraction : Float) : String :=
  Decimal.fixed 1 (fraction * 100.0) ++ "%"

end DumpDigest
