import GridQuery.Cell.Compare
import GridQuery.Column.Basic
import GridQuery.Condition.Basic
import GridQuery.Table.Row

/-!
# Selecting Rows

Which rows a condition selects, and in which order. A comparison looks at every row in turn and
fails with the first row whose cell cannot be compared. A conjunction first selects with its left
side and then with its right side, and merges the two lists by the ids of the rows: "and" keeps the
rows of the left list whose id is also in the right one, "or" puts after the left list those rows of
the right one whose id was not met before.

The rows may be carried along by values of any type, so that a caller can keep their positions.

## Main definitions

* `Leaf.resolve`: The column and the input of a comparison.
* `Condition.intersect`, `Condition.union`: The merges.
* `Condition.select`: The entries that a condition selects.
* `Condition.filterRows`, `Condition.positions`: The rows, or where they stand.

## Theorems

* `Condition.keep_eq_filter`: Where no test fails, keeping is filtering.
-/

namespace GridQuery

namespace Leaf

/-- The column and the coerced value of a comparison that the column allows. -/
def resolve (columns : List Column) (leaf : Leaf) : Except QueryError (Column × Input) :=
  match columns.find? fun c => c.name == leaf.column with
  | none => .error (.columnNotFound leaf.column)
  | some column =>
    if !column.kind.family.supports leaf.comparison then
      .error (.unsupportedComparison column.kind leaf.comparison)
    else (Input.coerce column.kind leaf.value).map fun input => (column, input)

/-- Whether a row satisfies a comparison of a column with an input. -/
def test (leaf : Leaf) (column : Column) (input : Input) (row : Row) : Except QueryError Bool :=
  Cell.compare ⟨column.kind, row.cell? column.name⟩ leaf.comparison input

end Leaf

namespace Condition

variable {α : Type}

/-- The elements that pass a test, which may fail. -/
def keep (test : α → Except QueryError Bool) : List α → Except QueryError (List α)
  | [] => .ok []
  | a :: rest =>
    match test a with
    | .error e => .error e
    | .ok passed => (keep test rest).map fun kept => if passed then a :: kept else kept

/-- The left elements whose key some right element has. -/
def intersect (key : α → String) (left right : List α) : List α :=
  left.filter fun a => (right.map key).contains (key a)

/-- The elements whose key has not been seen, each key once. -/
def newcomers (key : α → String) : List String → List α → List α
  | _, [] => []
  | seen, a :: rest =>
    if seen.contains (key a) then newcomers key seen rest
    else a :: newcomers key (key a :: seen) rest

/-- The left elements, and after them the right ones with a new key. -/
def union (key : α → String) (left right : List α) : List α :=
  left ++ newcomers key (left.map key) right

/-- The merge of a conjunction. -/
def mergeBy (conjunction : Conjunction) (key : α → String) : List α → List α → List α :=
  match conjunction with
  | .and => intersect key
  | .or => union key

/-- The entries whose row a condition selects. -/
def select (row : α → Row) (columns : List Column) :
    Condition → List α → Except QueryError (List α)
  | .leaf l, entries => do
    let (column, input) ← l.resolve columns
    keep (fun entry => l.test column input (row entry)) entries
  | .merge joint left right, entries => do
    let first ← select row columns left entries
    let second ← select row columns right entries
    .ok (mergeBy joint (fun entry => (row entry).id) first second)

/-- The rows that a condition selects. -/
def filterRows (columns : List Column) (condition : Condition) (rows : List Row) :
    Except QueryError (List Row) :=
  select (fun row => row) columns condition rows

/-- The positions of the rows that a condition selects. -/
def positions (columns : List Column) (condition : Condition) (rows : List Row) :
    Except QueryError (List Nat) :=
  (select Prod.fst columns condition rows.zipIdx).map fun entries => entries.map Prod.snd

theorem keep_eq_filter {test : α → Except QueryError Bool} {p : α → Bool} {entries : List α}
    (h : ∀ a ∈ entries, test a = .ok (p a)) : keep test entries = .ok (entries.filter p) := by
  induction entries with
  | nil => rfl
  | cons a rest ih =>
      rw [keep, h a List.mem_cons_self, ih fun b hb => h b (List.mem_cons_of_mem a hb)]
      simp only [Except.map, List.filter_cons]

end Condition

end GridQuery
