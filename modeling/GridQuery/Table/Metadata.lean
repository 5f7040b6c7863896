import GridQuery.Json.Parser
import GridQuery.Table.Basic

/-!
# Column Metadata

The columns of a table come as a JSON document in one of two forms: a list of columns, or a table,
of which only the columns are wanted. Either form is read to the end, so that a table with faulty
rows has no columns.

## Main definitions

* `MetadataProblem`: Why a text holds no columns.
* `Column.listOfText`: The columns that a text holds.
-/

namespace GridQuery

/-- Why a text holds no columns. -/
inductive MetadataProblem
  | notJson
  | shape (error : ShapeError)
  | form
  deriving DecidableEq, Repr

namespace Column

/-- The columns that a value holds. -/
def listOfJson (value : Json) : Except MetadataProblem (List Column) :=
  match value with
  | .array _ => (Shape.list shape value).mapError .shape
  | .object fields =>
    if (fields.lookup "columns").isSome then
      ((Table.shape value).map Table.columns).mapError .shape
    else .error .form
  | _ => .error .form

/-- The columns that a text holds. -/
def listOfText (text : String) : Except MetadataProblem (List Column) :=
  match Json.parse? text with
  | none => .error .notJson
  | some value => listOfJson value

end Column

end GridQuery
