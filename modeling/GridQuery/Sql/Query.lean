import GridQuery.Sql.Compile
import GridQuery.Table.Store

/-!
# Queries

A query selects rows of one table: those that fulfil a condition, in an order, and of them a page.
The condition joins the formulas of clauses as the specification does, in one list or in groups.

The column of a clause is found by its key, and if that fails by its name. A clause whose column is
not found says nothing and is left out, and so is a group without clauses and a sort key without a
column; but a row always has a time of creation and of change, and can be sorted by either.

## Main definitions

* `Junction`, `Criterion`, `Query`: Joined parts, a formula on a column, and a query.
* `Column.find?`, `Clause.located`: The column that a key and a name stand for, and the clauses
  whose column is found.
* `Specification.query`: The query of a specification.
* `Query.text`: The text of a query.
* `Store.query`: The query of a specification on a table of a store.
-/

namespace GridQuery

/-- Parts under one conjunction, which is written as it was given. -/
structure Junction (α : Type) where
  conjunction : String
  parts : List α
  deriving DecidableEq

/-- A formula on a column. -/
structure Criterion where
  column : String
  fragment : Fragment
  deriving DecidableEq

/-- What the rows of a query fulfil. -/
inductive Restriction
  | flat (criteria : Junction Criterion)
  | grouped (groups : Junction (Junction Criterion))
  deriving DecidableEq

/-- Rows of a table. -/
structure Query where
  table : String
  restriction : Option Restriction
  order : List (String × Direction)
  start : Nat
  limit : Nat
  deriving DecidableEq

/-- The column with a key, or else the column with a name; an empty key or name stands for none. -/
def Column.find? (columns : List Column) (key name : Option String) : Option Column :=
  let named (text : Option String) (field : Column → String) : Option Column :=
    (text.filter (· ≠ "")).bind fun t => columns.find? fun c => field c == t
  (named key Column.key).or (named name Column.name)

/-- The columns that rows have without being told of. -/
def Column.timestamps : List String := ["_ctime", "_mtime"]

/-- The clauses whose column is found, each with its column. -/
def Clause.located (columns : List Column) (clauses : List Clause) : List (Column × Clause) :=
  clauses.filterMap fun c => (Column.find? columns c.columnKey c.columnName).map fun column =>
    (column, c)

/-- The criterion of a clause on its column. -/
def Clause.criterion (today : Date) (column : Column) (c : Clause) :
    Except QueryError Criterion := do
  let operator ← Operator.ofColumn column
  let fragment ← c.fragment column operator today
  .ok ⟨column.name, fragment⟩

/-- The criteria of those clauses whose column is found. -/
def Clause.criteria (columns : List Column) (today : Date) (clauses : List Clause) :
    Except QueryError (List Criterion) :=
  (located columns clauses).mapM fun (column, c) => c.criterion today column

/-- The criteria of a group. -/
def Group.criteria (columns : List Column) (today : Date) (g : Group) :
    Except QueryError (Junction Criterion) :=
  (Clause.criteria columns today g.clauses).map fun criteria => ⟨g.conjunction, criteria⟩

/-- The column that a sort key sorts by. -/
def SortKey.column? (columns : List Column) (s : SortKey) : Option String :=
  match Column.find? columns s.columnKey s.columnName with
  | some column => some column.name
  | none => (s.columnKey.toList ++ s.columnName.toList).find? fun c => Column.timestamps.contains c

namespace Specification

/-- What the rows have to fulfil; nothing, if no clause says anything. -/
def restriction (s : Specification) (columns : List Column) (today : Date) :
    Except QueryError (Option Restriction) :=
  match s.groups with
  | none => do
    let criteria ← Clause.criteria columns today s.clauses
    .ok (if criteria.isEmpty then none else some (.flat ⟨s.conjunction, criteria⟩))
  | some groups => do
    let groups ← groups.mapM (Group.criteria columns today)
    let spoken := groups.filter fun g => !g.parts.isEmpty
    .ok (if spoken.isEmpty then none else some (.grouped ⟨s.groupConjunction, spoken⟩))

/-- The order of the rows, by the sort keys whose column is found. -/
def order (s : Specification) (columns : List Column) : List (String × Direction) :=
  s.sorts.filterMap fun key => (key.column? columns).map fun column => (column, key.direction)

/-- The query of a valid specification on a table. -/
def query (s : Specification) (table : String) (columns : List Column) (today : Date)
    (start limit : Nat) : Except QueryError Query := do
  s.validate
  let restriction ← s.restriction columns today
  .ok ⟨table, restriction, s.order columns, start, limit⟩

end Specification

/-- Texts of the parts with the conjunction between them. -/
def Junction.render {α : Type} (part : α → List Char) (j : Junction α) : List Char :=
  (' ' :: j.conjunction.toList ++ [' ']).intercalate (j.parts.map part)

def Criterion.render (c : Criterion) : List Char :=
  c.fragment.render c.column

def Restriction.render : Restriction → List Char
  | .flat criteria => criteria.render Criterion.render
  | .grouped groups => groups.render fun g => '(' :: g.render Criterion.render ++ [')']

def Direction.keyword : Direction → String
  | .ascending => "ASC"
  | .descending => "DESC"

namespace Query

/-- The first row and the number of rows of a page where nothing else is asked for. -/
def defaultStart : Nat := 0

def defaultLimit : Nat := 500

/-- The part of a query that says what the rows fulfil. -/
def whereText (q : Query) : List Char :=
  match q.restriction with
  | none => []
  | some restriction => " WHERE ".toList ++ restriction.render

/-- The part of a query that says in which order the rows are. -/
def orderText (q : Query) : List Char :=
  if q.order.isEmpty then []
  else " ORDER BY ".toList ++ [',', ' '].intercalate
    (q.order.map fun (column, direction) => column.toList ++ ' ' :: direction.keyword.toList)

/-- The text of a query. -/
def text (q : Query) : String :=
  .ofList ("SELECT * FROM ".toList ++ q.table.toList ++ q.whereText ++ q.orderText ++
    " LIMIT ".toList ++ Decimal.digits q.start ++ [',', ' '] ++ Decimal.digits q.limit)

end Query

/-- The query of a specification on a table of a store. -/
def Store.query (store : Store) (table : String) (s : Specification) (today : Date)
    (start limit : Nat) : Except QueryError Query := do
  let t ← store.table table
  s.query table t.columns today start limit

end GridQuery
