import GridQuery.Condition.Select
import GridQuery.Table.Store
import GridQuery.Text.Escaped

/-!
# Selections

A selection is a list of rows of a table that satisfied a condition when the selection was made. It
is a copy: what happens to the table later does not change it, and its own writes go to both.

An update writes row by row and stops at the first row that the store does not have, so that it may
have been done in part. A deletion is one write for all rows.

## Main definitions

* `Selection`: The rows, with the table and the condition they come from.
* `Selection.make`, `Store.select`, `Selection.narrow`: Making selections.
* `Selection.update`, `Selection.delete`: Writing through a selection.
-/

namespace GridQuery

/-- Rows of a table that satisfied a condition. -/
structure Selection where
  tableName : String
  columns : List Column
  rows : List Row
  conditions : String
  deriving DecidableEq

namespace Selection

/-- The rows that a condition text selects; a blank one selects all. -/
def matching (columns : List Column) (rows : List Row) (conditions : String) :
    Except QueryError (List Row) :=
  if (Text.trim conditions).isEmpty then .ok rows
  else match Condition.parse conditions with
    | .error e => .error (.badSyntax e)
    | .ok condition => condition.filterRows columns rows

/-- The selection of a condition among rows. -/
def make (tableName : String) (columns : List Column) (rows : List Row) (conditions : String) :
    Except QueryError Selection :=
  (matching columns rows conditions).map fun rows => ⟨tableName, columns, rows, conditions⟩

/-- The selection of a condition among the rows of a selection. -/
def narrow (s : Selection) (conditions : String) : Except QueryError Selection :=
  make s.tableName s.columns s.rows conditions

/-- The first row of a selection that satisfies a condition. -/
def get? (s : Selection) (conditions : String) : Except QueryError (Option Row) :=
  (s.narrow conditions).map fun narrowed => narrowed.rows.head?

/-- The ids of the rows, in order. -/
def ids (s : Selection) : List String :=
  s.rows.map Row.id

/-- Patches rows one by one, in the store and in the list, up to the first that fails. -/
def updateRows (store : Store) (table : String) (patch : Fields) :
    List Row → Store × List Row × Option QueryError
  | [] => (store, [], none)
  | row :: rest =>
    match store.updateRow table row.id patch with
    | .error e => (store, row :: rest, some e)
    | .ok store =>
      let (store, patched, e) := updateRows store table patch rest
      (store, row.patch patch :: patched, e)

/-- Patches all rows of a selection, in the store and in the selection; the rows before a failure
are patched. -/
def update (s : Selection) (store : Store) (patch : Fields) :
    Store × Selection × Option QueryError :=
  let (store, rows, e) := updateRows store s.tableName patch s.rows
  (store, { s with rows }, e)

/-- Deletes the rows of a selection from the store, and counts them; an empty selection leaves the
store alone. -/
def delete (s : Selection) (store : Store) : Except QueryError (Store × Selection × Nat) :=
  if s.rows.isEmpty then .ok (store, s, 0)
  else (store.deleteRows s.tableName s.ids).map fun store =>
    (store, { s with rows := [] }, s.rows.length)

/-- The selection in one line, without its rows. -/
def summary (s : Selection) : String :=
  "QuerySet \x7b table_name: " ++ Text.escaped s.tableName ++ ", conditions: " ++
    Text.escaped s.conditions ++ ", rows: " ++ .ofList (Nat.toDigits 10 s.rows.length) ++ " \x7d"

end Selection

/-- The selection of a condition among the rows of a table. -/
def Store.select (store : Store) (table conditions : String) : Except QueryError Selection := do
  let t ← store.table table
  Selection.make table t.columns t.rows conditions

end GridQuery
