import ImportAtlas.Text.Numeral

/-!
# Text tables

A table drawn with plus signs, dashes and bars. Every column is as wide as its widest cell, counted
in characters. A column whose cells are all unsigned integers is aligned to the right.

## Main definitions

* `ImportAtlas.Table`: the headers and the rows, which may be ragged.
* `ImportAtlas.Table.columns`: the columns as they are drawn.
* `ImportAtlas.Table.lines`: the lines of the drawing.
* `ImportAtlas.Table.render`: the drawing as one text, without a last line end.
-/

namespace ImportAtlas

/-- Headers and rows. A row may be shorter or longer than the headers: a missing cell is empty,
and a cell beyond the headers is not shown. -/
structure Table where
  /-- The heads of the columns. -/
  headers : List String
  /-- The rows under them. -/
  rows : List (List String)

namespace Table

/-- The width of a column: that of its widest cell, the head included. -/
def width (t : Table) (column : Nat) (header : String) : Nat :=
  t.rows.foldl (fun w row => max w (row.getD column "").length) header.length

/-- Whether a column is aligned to the right: there are rows, and each has an unsigned integer in
it. -/
def isNumeric (t : Table) (column : Nat) : Bool :=
  !t.rows.isEmpty && t.rows.all fun row =>
    match row[column]? with
    | some cell => (Numeral.unsigned? cell.toList).isSome
    | none => false

/-- A column as it is drawn. -/
structure Column where
  /-- Its width. -/
  width : Nat
  /-- Whether it is aligned to the right. -/
  right : Bool
  deriving Repr, DecidableEq

/-- The columns of a table. -/
def columns (t : Table) : List Column :=
  t.headers.mapIdx fun c header => ⟨t.width c header, t.isNumeric c⟩

/-- A separator line. -/
def separator (columns : List Column) : List Char :=
  '+' :: columns.flatMap fun column => List.replicate (column.width + 2) '-' ++ ['+']

/-- A cell between blanks, filled up to its width on the left or on the right, and its bar. -/
def slot (cell : String) (column : Column) : List Char :=
  let pad := List.replicate (column.width - cell.length) ' '
  let body := if column.right then pad ++ cell.toList else cell.toList ++ pad
  ' ' :: body ++ [' ', '|']

/-- The line of the heads, which are aligned to the left. -/
def headerLine (headers : List String) (columns : List Column) : List Char :=
  '|' :: (headers.zip columns).flatMap fun (head, column) => slot head ⟨column.width, false⟩

/-- The line of a row. -/
def rowLine (columns : List Column) (row : List String) : List Char :=
  '|' :: (columns.mapIdx fun c column => slot (row.getD c "") column).flatten

/-- The lines of the drawing. -/
def lines (t : Table) : List (List Char) :=
  let columns := t.columns
  let bar := separator columns
  [bar, headerLine t.headers columns, bar] ++ t.rows.map (rowLine columns) ++ [bar]

/-- The drawing as one text, without a last line end. -/
def render (t : Table) : String := String.ofList (['\n'].intercalate t.lines)

end Table

end ImportAtlas
