import GridQuery.Proofs.RowMeaning

/-!
# Conditions that are Rejected

When the selection of a condition fails, and how.

Both sides of a conjunction select from all given entries, so a comparison fails in a tree exactly
if it fails alone, and the first one from the left that fails is the one that is reported. It can
fail in two places. Its column and its value are looked at once, before any row is. But two mistakes
that are made in the condition alone, an order to the empty string and a pattern without a sign, are
noticed by the comparison with a cell. They are reported if there is a row at all, whatever its cell
holds, and are not seen over an empty list of rows.

## Main definitions

* `Condition.comparisons`: The comparisons of a condition, from the left.
* `Leaf.Meaningless`: A comparison with no truth value at any cell of its column.
* `Leaf.complaint`: The error that it gives.

## Theorems

* `Condition.errorOf?_select`: A condition fails as the first of its comparisons that fails.
* `Leaf.test_eq_complaint`: A comparison without meaning passes what is looked at before the rows,
  and fails at every one of them.
* `Condition.exists_error_filterRows_iff`: A condition with such a comparison is rejected over every
  list of rows but the empty one.
* `Condition.not_exists_error_filterRows`: Over that it is not.
-/

namespace GridQuery

/-- The comparison asks for the order of an ordered cell to the empty string, or for a text like a
pattern without a sign. The column is the first of its name. -/
def Leaf.Meaningless (columns : List Column) (l : Leaf) : Prop :=
  ∃ column, columns.find? (fun c => c.name == l.column) = some column ∧
    (column.kind.family = .ordered ∧ l.comparison.isOrdering = true ∧ l.value = "" ∨
      column.kind.family = .text ∧ l.comparison = .like ∧ Pattern.sign ∉ l.value.toList)

/-- What a comparison without meaning is told. -/
def Leaf.complaint (l : Leaf) : QueryError :=
  if l.comparison = .like then .invalidLikePattern l.value else .ambiguousComparison l.comparison

theorem Pattern.matches?_eq_none {text pattern : List Char} (h : sign ∉ pattern) :
    matches? text pattern = none := by
  rw [matches?, Text.cut_eq_none_iff.mpr h]

namespace Input

theorem coerce_empty_of_ordered {kind : ColumnKind} (h : kind.family = .ordered) :
    coerce kind "" = .ok .blank := by
  cases kind <;> first | rfl | exact nomatch h

theorem coerce_of_text {kind : ColumnKind} (h : kind.family = .text) (s : String) :
    coerce kind s = .ok (if s.isEmpty then .blank else .text s) := by
  cases kind <;> first | rfl | exact nomatch h

end Input

namespace Cell

theorem compareOrdered_blank {comparison : Comparison} (h : comparison.isOrdering = true)
    (cell : Cell) :
    compareOrdered cell comparison .blank = .error (.ambiguousComparison comparison) := by
  rw [compareOrdered, h, beq_self_eq_true, Bool.and_self, if_pos rfl]

/-- The empty pattern is blank, and the error for it has the empty pattern again. -/
theorem compareText_like {pattern : String} (h : Pattern.sign ∉ pattern.toList) (cell : Cell) :
    compareText cell .like (if pattern.isEmpty then .blank else .text pattern) =
      .error (.invalidLikePattern pattern) := by
  by_cases hempty : pattern.isEmpty = true
  · rw [if_pos hempty, String.isEmpty_iff.mp hempty]
    rfl
  · rw [if_neg hempty]
    simp only [compareText, Pattern.matches?_eq_none h]

end Cell

namespace Leaf

variable {columns : List Column} {l : Leaf}

/-- A comparison comes to its rows if its column is there, allows it and can read its value. -/
theorem resolve_eq_ok_iff {column : Column} {input : Input} :
    l.resolve columns = .ok (column, input) ↔
      columns.find? (fun c => c.name == l.column) = some column ∧
        column.kind.family.supports l.comparison = true ∧
        Input.coerce column.kind l.value = .ok input := by
  rw [resolve]
  cases hfind : columns.find? fun c => c.name == l.column with
  -- The column is looked for first, then the operator is checked, and the value is read last.
  | none => simp only [reduceCtorEq, false_and]
  | some found =>
      rw [Option.some.injEq]
      dsimp only
      cases hsupports : found.kind.family.supports l.comparison with
      | false =>
          simp only [Bool.not_false, if_true, reduceCtorEq, false_iff, not_and]
          rintro rfl hcolumn
          exact absurd (hsupports.symm.trans hcolumn) Bool.false_ne_true
      | true =>
          simp only [Bool.not_true, Bool.false_eq_true, if_false, map_eq_ok_iff, Prod.mk.injEq]
          constructor
          · rintro ⟨read, hread, rfl, rfl⟩
            exact ⟨rfl, hsupports, hread⟩
          · rintro ⟨rfl, -, hread⟩
            exact ⟨input, hread, rfl, rfl⟩

/-- A comparison without meaning is allowed by its column, and fails at every row. -/
theorem test_eq_complaint (h : l.Meaningless columns) :
    ∃ column input, l.resolve columns = .ok (column, input) ∧
      ∀ row, l.test column input row = .error l.complaint := by
  rcases h with ⟨column, hfind, ⟨hfamily, hordering, hvalue⟩ | ⟨hfamily, hlike, hsign⟩⟩
  · -- An ordering compared with nothing: the column takes the operator, and the value reads as no
    -- value.
    have hne : l.comparison ≠ .like := fun hlike => by
      rw [hlike] at hordering
      exact nomatch hordering
    have hsupports : Family.ordered.supports l.comparison = true := bne_iff_ne.mpr hne
    have hcoerce : Input.coerce column.kind l.value = .ok .blank := by
      rw [hvalue, Input.coerce_empty_of_ordered hfamily]
    refine ⟨column, .blank,
      resolve_eq_ok_iff.mpr ⟨hfind, hfamily ▸ hsupports, hcoerce⟩, fun row => ?_⟩
    simp only [test, Cell.compare, hfamily, hsupports, Bool.not_true, Bool.false_eq_true,
      if_false, Cell.compareOrdered_blank hordering, complaint, hne]
  · -- A pattern with a sign in the wrong place: every text column takes `like`, and any text is a
    -- value.
    have hsupports : Family.text.supports .like = true := rfl
    refine ⟨column, _, resolve_eq_ok_iff.mpr ⟨hfind, hfamily ▸ hlike ▸ hsupports,
      Input.coerce_of_text hfamily l.value⟩, fun row => ?_⟩
    simp only [test, Cell.compare, hfamily, hlike, hsupports, Bool.not_true, Bool.false_eq_true,
      if_false, Cell.compareText_like hsign, complaint, if_true]

end Leaf

namespace Condition

variable {α : Type} {row : α → Row} {columns : List Column}

/-- The comparisons of a condition, from the left. -/
def comparisons : Condition → List Leaf
  | .leaf l => [l]
  | .merge _ left right => left.comparisons ++ right.comparisons

/-- A condition fails as the first of its comparisons that fails, each put to all entries. -/
theorem errorOf?_select (condition : Condition) (entries : List α) :
    errorOf? (select row columns condition entries) =
      condition.comparisons.findSome? fun l =>
        errorOf? (select row columns (.leaf l) entries) := by
  induction condition with
  | leaf l =>
      rw [comparisons, List.findSome?_singleton]
  | merge joint left right ihl ihr =>
      -- The right side is put to all entries too, and is not reached if the left one fails.
      rw [comparisons, List.findSome?_append, ← ihl, ← ihr, select]
      cases select row columns left entries with
      | error e => rfl
      | ok first =>
          cases select row columns right entries with
          | error e => rfl
          | ok second => rfl

/-- A condition fails if and only if one of its comparisons does by itself. -/
theorem exists_error_select_iff {condition : Condition} {entries : List α} :
    (∃ e, select row columns condition entries = .error e) ↔
      ∃ l ∈ condition.comparisons, ∃ e, select row columns (.leaf l) entries = .error e := by
  simp only [← errorOf?_eq_some_iff, ← Option.isSome_iff_exists]
  rw [errorOf?_select, List.findSome?_isSome_iff]

theorem select_leaf_nil_eq_error_iff {l : Leaf} {e : QueryError} :
    select row columns (.leaf l) [] = .error e ↔ l.resolve columns = .error e := by
  rw [select, bind_eq_error_iff]
  simp only [keep, reduceCtorEq, and_false, exists_false, or_false]

theorem select_leaf_cons_of_meaningless {l : Leaf} (h : l.Meaningless columns) (a : α)
    (rest : List α) : select row columns (.leaf l) (a :: rest) = .error l.complaint := by
  rcases Leaf.test_eq_complaint h with ⟨column, input, hresolve, htest⟩
  simp only [select, hresolve, bind, Except.bind, keep, htest]

/-- A condition with a comparison that means nothing is rejected if there is a row at all. Over no
rows it is rejected for what is wrong with a column or with a value that cannot be read, and for
nothing else. -/
theorem exists_error_filterRows_iff {condition : Condition} {rows : List Row}
    (h : ∃ l ∈ condition.comparisons, l.Meaningless columns) :
    (∃ e, condition.filterRows columns rows = .error e) ↔
      rows ≠ [] ∨ ∃ l ∈ condition.comparisons, ∃ e, l.resolve columns = .error e := by
  rw [filterRows, exists_error_select_iff]
  cases rows with
  | nil =>
      -- No test is made, so that only what comes before the rows can fail.
      simp only [select_leaf_nil_eq_error_iff, ne_eq, not_true_eq_false, false_or]
  | cons r rest =>
      rcases h with ⟨l, hl, hmeaningless⟩
      exact iff_of_true
        ⟨l, hl, l.complaint, select_leaf_cons_of_meaningless hmeaningless r rest⟩
        (.inl (List.cons_ne_nil r rest))

/-- One row is enough, although its cell is blank and "or" has found it already. -/
theorem exists_error_filterRows_iff_one :
    let columns : List Column := [⟨"0000", "Name", .text, none⟩, ⟨"n1", "Age", .number, none⟩]
    let condition : Condition := .merge .or (.leaf ⟨"Name", .equal, "apple"⟩)
      (.leaf ⟨"Age", .greater, ""⟩)
    let rows : List Row := [⟨[("Name", .string "apple"), ("_id", .string "r1")]⟩]
    parse "Name = apple or Age > ''" = .ok condition ∧
      (∃ l ∈ condition.comparisons, l.Meaningless columns) ∧
      ∃ e, condition.filterRows columns rows = .error e := by
  intro columns condition rows
  have hmeaningless : ∃ l ∈ condition.comparisons, l.Meaningless columns :=
    ⟨⟨"Age", .greater, ""⟩, by decide, ⟨"n1", "Age", .number, none⟩, by decide, .inl (by decide)⟩
  exact ⟨by decide +kernel, hmeaningless,
    (exists_error_filterRows_iff hmeaningless).mpr (.inl (List.cons_ne_nil _ _))⟩

/-- Without a row the order to the empty string is not noticed. -/
theorem not_exists_error_filterRows :
    let columns : List Column := [⟨"n1", "Age", .number, none⟩]
    let condition : Condition := .leaf ⟨"Age", .greater, ""⟩
    parse "Age > ''" = .ok condition ∧ (∃ l ∈ condition.comparisons, l.Meaningless columns) ∧
      condition.filterRows columns [] = .ok [] ∧
      ¬∃ e, condition.filterRows columns [] = .error e := by
  intro columns condition
  refine ⟨by decide +kernel, ⟨⟨"Age", .greater, ""⟩, by decide, ⟨"n1", "Age", .number, none⟩,
    by decide, .inl (by decide)⟩, rfl, ?_⟩
  rintro ⟨e, he⟩
  exact nomatch he

end Condition

end GridQuery
