import GridQuery.Table.Basic
import GridQuery.Text.Blank
import GridQuery.View.Cell
import GridQuery.View.Style

/-!
# Table Views

Rows as a table in plain text: a heading and one line a row, each line the id and then the cells of
the columns, cut and filled to one width, and without blanks at its end. Rows as JSON come with the
name of their table and their count.

## Main definitions

* `View.table`: Rows as lines.
* `View.rows`: Rows as JSON.
* `View.shortId`: The part of an id that is shown.
-/

namespace GridQuery

namespace View

/-- The width of the id and of a cell. -/
def idWidth : Nat := 8

def cellWidth : Nat := 20

/-- The part of an id that is shown. -/
def shortId (id : String) : String :=
  .ofList (id.toList.take 6)

/-- A cell of the width of all cells. -/
def framed (text : String) : String :=
  Text.padded cellWidth (Text.clipped cellWidth text)

/-- A line of an id and cells, without the blanks at its end. -/
def line (id : String) (cells : List String) : String :=
  Text.trimEnd (id ++ String.join (cells.map fun cell => " " ++ framed cell))

/-- The heading of a table. -/
def heading (columns : List Column) (colors : Bool) : String :=
  Style.dimmed.paint colors (line (Text.padded idWidth "ID") (columns.map Column.name))

/-- The text of the cell of a row in a column. -/
def cellOf (row : Row) (column : Column) : String :=
  ((row.cell? column.name).map Json.cellText).getD ""

/-- The line of a row. -/
def rowLine (columns : List Column) (colors : Bool) (row : Row) : String :=
  line (Style.cyan.paint colors (Text.padded idWidth (shortId row.id)))
    (columns.map (cellOf row))

/-- Rows as lines under a heading. -/
def table (columns : List Column) (rows : List Row) (colors : Bool) : String :=
  if rows.isEmpty then "No rows found.\n"
  else String.join ((heading columns colors :: rows.map (rowLine columns colors)).map (· ++ "\n"))

/-- Rows as JSON. -/
def rows (table : String) (rows : List Row) : Json :=
  .object [("table", .string table), ("count", .number (.int rows.length)),
    ("rows", .array (rows.map Row.toJson))]

end View

end GridQuery
