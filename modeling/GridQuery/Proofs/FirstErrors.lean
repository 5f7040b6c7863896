import GridQuery.Proofs.RejectedConditions

/-!
# Which Error is Reported

The error of a condition in which several things are wrong at once.

One might expect a conjunction to save work: "and" need not look at rows that its left side has left
out, and "or" not at those that it has taken in. It does not. Both sides are put to all rows, so
what is wrong with a comparison comes out wherever it stands in the tree, and no merge hides it. Of
several comparisons that fail, the first from the left is reported.

What is wrong with a single comparison is looked for in one order, too: first its column, then its
operator, then its value, each of which is settled before any row is looked at, and at last the rows
from the top. `Leaf.FailsWith` states this order as a relation, in which every kind of error names
what must have been in order before.

## Main definitions

* `Leaf.FailsWith`: The error of a comparison over a list of rows.

## Theorems

* `Condition.keep_eq_error_iff`: Keeping fails as the first test that fails.
* `Leaf.resolve_eq_error_iff`: What can be wrong with a comparison before the rows.
* `Condition.filterRows_leaf_eq_error_iff`: A comparison fails as the relation says.
* `Condition.filterRows_eq_error_iff`: A condition fails as the first of its comparisons that does.
-/

namespace GridQuery

/-- The error of a comparison over a list of rows, what is looked at first coming first. -/
inductive Leaf.FailsWith (columns : List Column) (rows : List Row) (l : Leaf) : QueryError → Prop
  | column : (∀ c ∈ columns, c.name ≠ l.column) →
    FailsWith columns rows l (.columnNotFound l.column)
  | operator {column : Column} :
    columns.find? (fun c => c.name == l.column) = some column →
    column.kind.family.supports l.comparison = false →
    FailsWith columns rows l (.unsupportedComparison column.kind l.comparison)
  | value {column : Column} {e : QueryError} :
    columns.find? (fun c => c.name == l.column) = some column →
    column.kind.family.supports l.comparison = true →
    Input.coerce column.kind l.value = .error e →
    FailsWith columns rows l e
  | cell {column : Column} {input : Input} {before after : List Row} {row : Row}
    {e : QueryError} :
    columns.find? (fun c => c.name == l.column) = some column →
    column.kind.family.supports l.comparison = true →
    Input.coerce column.kind l.value = .ok input →
    rows = before ++ row :: after →
    (∀ earlier ∈ before, ∃ b,
      Cell.compare ⟨column.kind, earlier.cell? column.name⟩ l.comparison input = .ok b) →
    Cell.compare ⟨column.kind, row.cell? column.name⟩ l.comparison input = .error e →
    FailsWith columns rows l e

namespace Condition

variable {α : Type} {columns : List Column} {rows : List Row}

theorem errorOf?_keep (test : α → Except QueryError Bool) (entries : List α) :
    errorOf? (keep test entries) = entries.findSome? fun a => errorOf? (test a) := by
  induction entries with
  | nil => rfl
  | cons a rest ih =>
      rw [keep, List.findSome?_cons, ← ih]
      cases test a with
      | error e => rfl
      | ok b =>
          cases keep test rest with
          | error e => rfl
          | ok kept => rfl

/-- The first test that fails ends the keeping, and the tests before it had an outcome. -/
theorem keep_eq_error_iff {test : α → Except QueryError Bool} {entries : List α} {e : QueryError} :
    keep test entries = .error e ↔
      ∃ before a after, entries = before ++ a :: after ∧ (∀ b ∈ before, ∃ v, test b = .ok v) ∧
        test a = .error e := by
  rw [← errorOf?_eq_some_iff, errorOf?_keep, findSome?_errorOf?_eq_some_iff]

end Condition

/-- A comparison is refused before the rows for its column, its operator or its value. -/
theorem Leaf.resolve_eq_error_iff {columns : List Column} {l : Leaf} {e : QueryError} :
    l.resolve columns = .error e ↔
      (∀ c ∈ columns, c.name ≠ l.column) ∧ e = .columnNotFound l.column ∨
      ∃ column, columns.find? (fun c => c.name == l.column) = some column ∧
        (column.kind.family.supports l.comparison = false ∧
            e = .unsupportedComparison column.kind l.comparison ∨
          column.kind.family.supports l.comparison = true ∧
            Input.coerce column.kind l.value = .error e) := by
  rw [resolve]
  cases hfind : columns.find? fun c => c.name == l.column with
  | none =>
      have hnone : ∀ c ∈ columns, c.name ≠ l.column := fun c hc hname =>
        List.find?_eq_none.mp hfind c hc (beq_iff_eq.mpr hname)
      simp only [Except.error.injEq, reduceCtorEq, false_and, exists_false, or_false]
      exact ⟨fun h => ⟨hnone, h.symm⟩, fun h => h.2.symm⟩
  | some column =>
      -- There is a column of the name, which leaves the operator and then the value.
      have hname := List.find?_some hfind
      have hsome : ¬∀ c ∈ columns, c.name ≠ l.column := fun hnone =>
        hnone column (List.mem_of_find?_eq_some hfind) (beq_iff_eq.mp hname)
      simp only [hsome, false_and, false_or, Option.some.injEq, exists_eq_left']
      cases column.kind.family.supports l.comparison with
      | false =>
          simp only [Bool.not_false, if_true, Except.error.injEq, true_and, Bool.false_eq_true,
            false_and, or_false]
          exact eq_comm
      | true =>
          simp only [Bool.not_true, Bool.false_eq_true, if_false, map_eq_error_iff, reduceCtorEq,
            false_and, true_and, false_or]

namespace Condition

variable {columns : List Column} {rows : List Row}

/-- A comparison alone fails as the relation says. -/
theorem filterRows_leaf_eq_error_iff {l : Leaf} {e : QueryError} :
    (Condition.leaf l).filterRows columns rows = .error e ↔ l.FailsWith columns rows e := by
  rw [filterRows, select, bind_eq_error_iff, Leaf.resolve_eq_error_iff]
  constructor
  · rintro (hbefore | ⟨⟨column, input⟩, hresolve, hkeep⟩)
    · -- The leaf failed before any row was looked at: column, operator or value.
      rcases hbefore with ⟨hnone, rfl⟩ | ⟨column, hfind, ⟨hop, rfl⟩ | ⟨hop, hvalue⟩⟩
      · exact .column hnone
      · exact .operator hfind hop
      · exact .value hfind hop hvalue
    · -- It was resolved, and then the first row that fails decides.
      rcases Leaf.resolve_eq_ok_iff.mp hresolve with ⟨hfind, hop, hvalue⟩
      rcases keep_eq_error_iff.mp hkeep with ⟨before, row, after, hrows, hearlier, hrow⟩
      exact .cell hfind hop hvalue hrows hearlier hrow
  · intro h
    cases h with
    | column hnone => exact .inl (.inl ⟨hnone, rfl⟩)
    | operator hfind hop => exact .inl (.inr ⟨_, hfind, .inl ⟨hop, rfl⟩⟩)
    | value hfind hop hvalue => exact .inl (.inr ⟨_, hfind, .inr ⟨hop, hvalue⟩⟩)
    | cell hfind hop hvalue hrows hearlier hrow =>
        exact .inr ⟨_, Leaf.resolve_eq_ok_iff.mpr ⟨hfind, hop, hvalue⟩,
          keep_eq_error_iff.mpr ⟨_, _, _, hrows, hearlier, hrow⟩⟩

/-- A condition fails over a list of rows if and only if one of its comparisons fails alone over the
same rows. The error is that of the first comparison from the left that does, and a comparison fails
alone for its column, its operator or its value, or else as the first row whose cell it cannot
compare. -/
theorem filterRows_eq_error_iff (condition : Condition) (columns : List Column)
    (rows : List Row) :
    ((∃ e, condition.filterRows columns rows = .error e) ↔
      ∃ l ∈ condition.comparisons, ∃ e, (Condition.leaf l).filterRows columns rows = .error e) ∧
    (∀ e, condition.filterRows columns rows = .error e ↔
      ∃ before l after, condition.comparisons = before ++ l :: after ∧
        (∀ earlier ∈ before, ∃ found,
          (Condition.leaf earlier).filterRows columns rows = .ok found) ∧
        (Condition.leaf l).filterRows columns rows = .error e) ∧
    ∀ l e, (Condition.leaf l).filterRows columns rows = .error e ↔ l.FailsWith columns rows e := by
  refine ⟨exists_error_select_iff, fun e => ?_, fun l e => filterRows_leaf_eq_error_iff⟩
  rw [filterRows, ← errorOf?_eq_some_iff, errorOf?_select, findSome?_errorOf?_eq_some_iff]
  rfl

/-- Both comparisons fail, the right one at the first row; reported is the left one, which fails at
the second row. -/
example :
    let columns : List Column := [⟨"n1", "Age", .number, none⟩, ⟨"d1", "Due", .date, none⟩]
    let rows : List Row :=
      [⟨[("Age", .string "old"), ("_id", .string "r1")]⟩,
        ⟨[("Due", .string "soon"), ("_id", .string "r2")]⟩]
    (Condition.merge .or (.leaf ⟨"Due", .equal, ""⟩) (.leaf ⟨"Age", .greater, "3"⟩)).filterRows
      columns rows = .error (.valueCoercion .date "soon" .dateInput) := by
  decide

end Condition

end GridQuery
