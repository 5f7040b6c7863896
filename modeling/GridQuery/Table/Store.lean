import GridQuery.Error
import GridQuery.Table.Basic

/-!
# Stores

A store holds tables under their names. A row is updated where its id is met first; rows are deleted
by a list of ids, and every row with one of them goes.

## Main definitions

* `Store`: The tables.
* `Store.insert`, `Store.table?`: Putting a table in, over one of the same name, and taking it.
* `Store.updateRow`, `Store.deleteRows`: Writes to one table.

## Theorems

* `Store.table?_insert`: A table is found under the name under which it was put in last.
-/

namespace GridQuery

/-- Tables under their names. -/
structure Store where
  tables : List Table
  deriving DecidableEq

namespace Store

def empty : Store := ⟨[]⟩

/-- The table with a name. -/
def table? (store : Store) (name : String) : Option Table :=
  store.tables.find? fun t => t.name == name

/-- Puts a table in, in place of the one of the same name. -/
def insert (store : Store) (table : Table) : Store :=
  ⟨table :: store.tables.filter fun t => t.name != table.name⟩

/-- The store of a list of tables; a later one takes the place of an earlier one. -/
def ofList (tables : List Table) : Store :=
  tables.foldl insert empty

/-- The table with a name, or an error. -/
def table (store : Store) (name : String) : Except QueryError Table :=
  match store.table? name with
  | some t => .ok t
  | none => .error (.dataSource (.noTable name))

/-- Patches the first row with an id, if there is one. -/
def patchFirst? (id : String) (patch : Fields) : List Row → Option (List Row)
  | [] => none
  | row :: rest =>
    if row.id = id then some (row.patch patch :: rest)
    else (patchFirst? id patch rest).map fun patched => row :: patched

/-- Patches the first row of a table with an id. -/
def updateRow (store : Store) (name id : String) (patch : Fields) : Except QueryError Store :=
  match store.table? name with
  | none => .error (.dataSource (.noTable name))
  | some t =>
    match patchFirst? id patch t.rows with
    | none => .error (.dataSource (.noRow id))
    | some rows => .ok (store.insert { t with rows })

/-- Deletes the rows of a table with one of the ids. -/
def deleteRows (store : Store) (name : String) (ids : List String) : Except QueryError Store :=
  match store.table? name with
  | none => .error (.dataSource (.noTable name))
  | some t => .ok (store.insert { t with rows := t.rows.filter fun row => !ids.contains row.id })

theorem table?_insert (store : Store) (t : Table) (name : String) :
    (store.insert t).table? name = if name = t.name then some t else store.table? name := by
  simp only [insert, table?, List.find?_cons]
  by_cases h : name = t.name
  · simp [h]
  · have hne : (t.name == name) = false := beq_eq_false_iff_ne.2 (Ne.symm h)
    rw [hne, if_neg h]
    -- The table is another one, and the filter for the new name does not take it away.
    dsimp only
    rw [List.find?_filter]
    congr 1
    funext s
    by_cases hs : s.name = name
    · simp [hs, h]
    · simp [hs]

end Store

end GridQuery
