import LintReview.Console.Cell

/-!
# Tables

A printed table has a title above it, a row of headings and rows of entries. Each column is
as wide as its widest entry, with a blank on both sides.
-/

namespace LintReview.Console

/-- A column of a table. -/
structure Column where
  heading : String
  /-- The entries stand at the right end of the column. -/
  atRight : Bool := false
  deriving Repr, DecidableEq

/-- A number of blanks. -/
def blanks (count : Nat) : String := String.ofList (List.replicate count ' ')

/-- The number of cells that a text takes. -/
def textWidth (text : String) : Nat := width text.toList

/-- The characters that make up a line between rows. -/
structure Rule where
  left : String
  line : Char
  crossing : String
  right : String
  deriving Repr, DecidableEq

namespace Rule

/-- The line above the headings. -/
def top : Rule := ⟨"┏", '━', "┳", "┓"⟩

/-- The line below the headings. -/
def middle : Rule := ⟨"┡", '━', "╇", "┩"⟩

/-- The line below the entries. -/
def bottom : Rule := ⟨"└", '─', "┴", "┘"⟩

/-- The line over columns of the given widths. -/
def drawn (rule : Rule) (widths : List Nat) : String :=
  let spans := widths.map fun size => String.ofList (List.replicate (size + 2) rule.line)
  rule.left ++ rule.crossing.intercalate spans ++ rule.right

end Rule

namespace Column

/-- An entry of the column, with blanks up to the width of the column. -/
def aligned (column : Column) (size : Nat) (entry : String) : String :=
  let padding := blanks (size - textWidth entry)
  if column.atRight then padding ++ entry else entry ++ padding

/-- The width of a column with entries. -/
def widthOf (column : Column) (entries : List String) : Nat :=
  (column.heading :: entries).foldl (fun size entry => max size (textWidth entry)) 0

end Column

/-- The widths of columns with rows of entries. -/
def columnWidths : List Column → List (List String) → List Nat
  | [], _ => []
  | column :: others, rows =>
    column.widthOf (rows.filterMap List.head?) :: columnWidths others (rows.map List.tail)

/-- A row of entries between upright lines. -/
def drawnRow (upright : String) (columns : List Column) (widths : List Nat)
    (entries : List String) : String :=
  let aligned := (columns.zip (widths.zip entries)).map fun (column, size, entry) =>
    " " ++ column.aligned size entry ++ " "
  upright ++ upright.intercalate aligned ++ upright

/-- A title in the middle of a line. -/
def centred (size : Nat) (title : String) : String :=
  let free := size - textWidth title
  blanks (free / 2) ++ title ++ blanks (free - free / 2)

/-- A table as it is printed. -/
def table (title : String) (columns : List Column) (rows : List (List String)) : String :=
  let widths := columnWidths columns rows
  let top := Rule.top.drawn widths
  let lines :=
    [ centred (textWidth top) title,
      top,
      drawnRow "┃" columns widths (columns.map Column.heading),
      Rule.middle.drawn widths ]
      ++ rows.map (drawnRow "│" columns widths)
      ++ [Rule.bottom.drawn widths]
  "".intercalate (lines.map (· ++ "\n"))

end LintReview.Console
