import GridQuery.Column.Basic
import GridQuery.Table.Row

/-!
# Tables

A table has a name, columns and rows. A document may say more of a table than its outline names; the
cells of its rows are all wanted.

## Main definitions

* `Table`, `Table.shape`, `Table.toJson`: Tables, and how they are read and written.
* `Table.ofText?`: The table that a text holds.
-/

namespace GridQuery

/-- A named table. -/
structure Table where
  name : String
  columns : List Column
  rows : List Row
  deriving DecidableEq

namespace Table

def shape : Shape Table :=
  .record false ⟨"", [], []⟩
    [.of "name" true .string fun t name => { t with name },
      .of "columns" false (.list Column.shape) fun t columns => { t with columns },
      .of "rows" false (.list Row.shape) fun t rows => { t with rows }]

def outline : Json.Outline :=
  .record [("name", .whole), ("columns", .list Column.outline), ("rows", .whole)]

/-- The table that a text holds. -/
def ofText? (text : String) : Option Table :=
  (Json.outlined? outline text).bind fun document => (shape document).toOption

def toJson (t : Table) : Json :=
  .object [("columns", .array (t.columns.map Column.toJson)), ("name", .string t.name),
    ("rows", .array (t.rows.map Row.toJson))]

/-- The ids of the rows, in order. -/
def ids (t : Table) : List String :=
  t.rows.map Row.id

end Table

end GridQuery
