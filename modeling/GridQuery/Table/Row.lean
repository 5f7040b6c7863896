import GridQuery.Json.Record

/-!
# Rows

A row is a record of cells under the names of columns. One of them may be its id: the row is known
by the string under the id key, and by the empty string if there is none.

## Main definitions

* `Row`, `Row.id`, `Row.cell?`: A row, its id and its cells.
* `Row.set`, `Row.patch`: Writing one cell, or those of a patch.

## Theorems

* `Row.cell?_patch`: A patched cell has the last value that the patch gives it.
* `Row.id_patch`: A patch without the id key leaves the id alone.
-/

namespace GridQuery

/-- A record of cells. -/
structure Row where
  cells : Fields
  deriving DecidableEq

namespace Row

/-- The key of the cell that holds the id. -/
def idKey : String := "_id"

/-- The cell under a name. -/
def cell? (row : Row) (name : String) : Option Json :=
  row.cells.lookup name

/-- The string under the id key, or the empty string. -/
def id (row : Row) : String :=
  ((row.cell? idKey).bind Json.string?).getD ""

/-- The row that has an id and nothing else. -/
def ofId (id : String) : Row := ⟨[(idKey, .string id)]⟩

/-- Writes one cell. -/
def set (row : Row) (name : String) (value : Json) : Row :=
  ⟨Fields.insert name value row.cells⟩

/-- Writes the cells of a patch. -/
def patch (row : Row) (written : Fields) : Row :=
  ⟨Fields.overlay row.cells written⟩

def shape : Shape Row := fun value => (Shape.fields value).map Row.mk

def toJson (row : Row) : Json := .object row.cells

theorem cell?_patch (row : Row) (written : Fields) (name : String) :
    (row.patch written).cell? name = (written.reverse.lookup name).or (row.cell? name) :=
  Fields.lookup_overlay name row.cells written

theorem id_patch (row : Row) (written : Fields) (h : written.reverse.lookup idKey = none) :
    (row.patch written).id = row.id := by
  simp [id, cell?_patch, h]

end Row

end GridQuery
