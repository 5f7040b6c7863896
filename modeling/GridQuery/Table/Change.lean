import GridQuery.Column.Basic

/-!
# Change Messages

A store reports a change of a row as a message. Its cells stand under the keys of columns, and the
cells of select columns hold the ids of options. The readable form has names for both, and above
the cells it says which row of which table changed and how.

The readable form of a cell may be missing: a select cell that is filled says nothing in a column
without options, nor does a filled cell of a multiple select that is no list. A cell under a key
that no column has is left out. The cells are written in the order of their keys, over the header
and over each other.

## Main definitions

* `ChangeKind`, `Change`: A change of a row.
* `Change.ofJson?`: The change that a message reports.
* `Column.readable?`: The readable form of a cell.
* `Change.readable`: The readable form of a message.

## Theorems

* `ChangeKind.ofName?_name`: A kind of change is found under its name.
-/

namespace GridQuery

/-- What happened to a row. -/
inductive ChangeKind
  | insert | modify | delete
  deriving DecidableEq, Repr

/-- A change of a row: what happened, the id of the row, and its cells under the keys of columns. -/
structure Change where
  kind : ChangeKind
  rowId : Json
  cells : Fields
  deriving DecidableEq

namespace ChangeKind

/-- The name of a kind of change in messages. -/
def name : ChangeKind → String
  | .insert => "insert_row"
  | .modify => "modify_row"
  | .delete => "delete_row"

/-- The field of a message that holds the cells. -/
def cellsKey : ChangeKind → String
  | .insert => "row_data"
  | .modify => "updated"
  | .delete => "deleted_row"

/-- The kind of change with a name. -/
def ofName? (name : String) : Option ChangeKind :=
  [insert, modify, delete].find? fun kind => kind.name == name

theorem ofName?_name (kind : ChangeKind) : ofName? kind.name = some kind := by
  cases kind <;> decide

end ChangeKind

/-- The cell holds something: it is not null, the empty string or the empty list. -/
def Json.isFilled : Json → Bool
  | .null => false
  | .string s => !s.isEmpty
  | .array items => !items.isEmpty
  | _ => true

namespace Column

/-- The options of a column. -/
def options (c : Column) : List SelectOption :=
  (c.data.map ColumnData.options).getD []

/-- The name of the option whose id a value is, or null. -/
def optionName (c : Column) (id : Json) : Json :=
  match id.string?.bind fun id => c.data.bind fun data => data.optionName? id with
  | some name => .string name
  | none => .null

/-- The readable form of a cell, if it has one. -/
def readable? (c : Column) (cell : Json) : Option Json :=
  match c.kind with
  | .singleSelect =>
    if !cell.isFilled then some cell
    else if c.options.isEmpty then none
    else some (c.optionName cell)
  | .multipleSelect =>
    if !cell.isFilled then some cell
    else if c.options.isEmpty then none
    else cell.array?.map fun ids => .array (ids.map c.optionName)
  | .longText => some ((cell.field? "text").getD (.string ""))
  | _ => some cell

end Column

namespace Change

/-- The change that a message reports, if it reports one. -/
def ofJson? (message : Json) : Option Change := do
  let kind ← ChangeKind.ofName? (← (message.field? "op_type").bind Json.string?)
  let cells ← (message.field? kind.cellsKey).bind Json.object?
  some ⟨kind, (message.field? "row_id").getD .null, cells⟩

/-- The fields above the cells of a readable change. -/
def header (c : Change) (table : String) : Fields :=
  [("_id", c.rowId), ("op_type", .string c.kind.name), ("table_name", .string table)]

/-- The readable cells under the names of their columns. -/
def readableCells (c : Change) (columns : List Column) : Fields :=
  c.cells.filterMap fun (key, cell) => do
    let column ← columns.find? fun column => column.key == key
    let value ← column.readable? cell
    some (column.name, value)

/-- The fields of a readable change. -/
def fields (c : Change) (table : String) (columns : List Column) : Fields :=
  Fields.overlay (c.header table) (c.readableCells columns)

/-- The readable form of a message; a message that reports no change of a row is left as it is. -/
def readable (message : Json) (table : String) (columns : List Column) : Json :=
  match ofJson? message with
  | some change => .object (change.fields table columns)
  | none => message

end Change

end GridQuery
