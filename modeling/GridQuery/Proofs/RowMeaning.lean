import GridQuery.Condition.Select
import GridQuery.Proofs.Outcome
import Mathlib.Data.List.Nodup

/-!
# Conditions Row by Row

What a condition says of one row, and that selection agrees with it.

`Condition.select` never puts a row to the whole condition. Each comparison yields a list of rows,
and the lists are merged by the ids of their rows, so that what becomes of one row depends on the
ids of the others: a row is kept by an "and" because some row of its id is in the other list, and
left out by an "or" because some row of its id was met before. `Condition.truth` is the meaning one
would expect instead, the tree of comparisons read as a tree of truth values at a single row.

The two agree where the ids are distinct, for then an id stands for its row. That is the only use
of the hypothesis: a merge keeps ids distinct whatever its rows are, and every selected entry is one
of the given entries in any case.

All facts about a selection are by induction on the condition. `select_induction` states that
induction once, with the lists that the parts of a merge have selected in place of the computations.

## Main definitions

* `Conjunction.apply`: The Boolean connective of a conjunction.
* `Leaf.truth`, `Condition.truth`: The truth of a comparison and of a condition at a row.
* `Condition.passed`: Whether a test that may fail has passed.

## Theorems

* `keep_eq_ok_iff`: Keeping succeeds where every test does, and then it is filtering.
* `select_induction`: Induction over the lists that a condition selects.
* `nodup_map_mergeBy`: A merge keeps keys distinct.
* `mem_mergeBy`: Where a key stands for its entry, a merge by keys is a connective.
* `exists_truth_of_select`: Where selection succeeds, the condition has a truth value at every row.
* `mem_select_iff_of_id`: An entry whose id stands for it is selected where the condition is true.
* `mem_select_iff`: The same of all entries, if their ids are distinct.
* `mem_filterRows_iff_truth`: The same of rows, none of which is selected twice.
-/

namespace GridQuery

/-- The Boolean connective of a conjunction. -/
def Conjunction.apply : Conjunction → Bool → Bool → Bool
  | .and => Bool.and
  | .or => Bool.or

/-- The truth of a comparison at a row: the cell compared with the coerced value. -/
def Leaf.truth (columns : List Column) (leaf : Leaf) (row : Row) : Except QueryError Bool := do
  let (column, input) ← leaf.resolve columns
  leaf.test column input row

namespace Condition

variable {α : Type}

/-- The truth of a condition at a row: the connectives applied to the truth of the comparisons. -/
def truth (columns : List Column) (row : Row) : Condition → Except QueryError Bool
  | .leaf l => l.truth columns row
  | .merge joint left right => do
    let first ← truth columns row left
    let second ← truth columns row right
    .ok (joint.apply first second)

/-- A test that may fail has passed. -/
def passed : Except QueryError Bool → Bool
  | .ok b => b
  | .error _ => false

theorem passed_eq_true_iff {outcome : Except QueryError Bool} :
    passed outcome = true ↔ outcome = .ok true := by
  cases outcome with
  | error e => simp only [passed, reduceCtorEq, Bool.false_eq_true]
  | ok b => simp only [passed, Except.ok.injEq]

theorem keep_eq_ok_iff {test : α → Except QueryError Bool} {entries kept : List α} :
    keep test entries = .ok kept ↔
      (∀ a ∈ entries, ∃ b, test a = .ok b) ∧ kept = entries.filter fun a => passed (test a) := by
  constructor
  · intro h
    -- The tests run in order and the first that fails ends them, so none of them failed.
    have hall : ∀ a ∈ entries, ∃ b, test a = .ok b := by
      induction entries generalizing kept with
      | nil => exact fun a ha => absurd ha List.not_mem_nil
      | cons a rest ih =>
          rw [keep] at h
          cases hta : test a with
          | error e =>
              rw [hta] at h
              exact absurd h (by simp only [reduceCtorEq, not_false_eq_true])
          | ok b =>
              rw [hta] at h
              cases hrest : keep test rest with
              | error e =>
                  rw [hrest] at h
                  exact absurd h (by simp only [Except.map, reduceCtorEq, not_false_eq_true])
              | ok tail =>
                  intro c hc
                  rcases List.mem_cons.mp hc with rfl | hc
                  · exact ⟨b, hta⟩
                  · exact ih hrest c hc
    refine ⟨hall, ?_⟩
    have hfilter : keep test entries = .ok (entries.filter fun a => passed (test a)) := by
      refine keep_eq_filter (fun a ha => ?_)
      rcases hall a ha with ⟨b, hb⟩
      rw [hb, passed]
    rw [hfilter, Except.ok.injEq] at h
    exact h.symm
  · rintro ⟨hall, rfl⟩
    refine keep_eq_filter (fun a ha => ?_)
    rcases hall a ha with ⟨b, hb⟩
    rw [hb, passed]

/-! ## What a selection is made of -/

theorem select_leaf_eq_ok_iff {row : α → Row} {columns : List Column} {l : Leaf}
    {entries found : List α} :
    select row columns (.leaf l) entries = .ok found ↔
      ∃ column input, l.resolve columns = .ok (column, input) ∧
        keep (fun entry => l.test column input (row entry)) entries = .ok found := by
  rw [select, bind_eq_ok_iff]
  exact Prod.exists

theorem select_merge_eq_ok_iff {row : α → Row} {columns : List Column} {joint : Conjunction}
    {left right : Condition} {entries found : List α} :
    select row columns (.merge joint left right) entries = .ok found ↔
      ∃ first, select row columns left entries = .ok first ∧
        ∃ second, select row columns right entries = .ok second ∧
          mergeBy joint (fun entry => (row entry).id) first second = found := by
  simp only [select, bind_eq_ok_iff, Except.ok.injEq]

/-- Induction over the lists that a condition selects: what holds of the entries that a comparison
keeps and passes from two lists to their merge holds of every selection. -/
theorem select_induction {row : α → Row} {columns : List Column} {entries : List α}
    {motive : Condition → List α → Prop}
    (leaf : ∀ l column input, l.resolve columns = .ok (column, input) →
      (∀ a ∈ entries, ∃ b, l.test column input (row a) = .ok b) →
      motive (.leaf l) (entries.filter fun a => passed (l.test column input (row a))))
    (merge : ∀ joint left right first second,
      motive left first → motive right second →
      motive (.merge joint left right)
        (mergeBy joint (fun entry => (row entry).id) first second))
    {condition : Condition} {found : List α}
    (h : select row columns condition entries = .ok found) : motive condition found := by
  -- What was found is made of what the parts found, as the condition is of its parts.
  induction condition generalizing found with
  | leaf l =>
      rcases select_leaf_eq_ok_iff.mp h with ⟨column, input, hres, hkeep⟩
      rcases keep_eq_ok_iff.mp hkeep with ⟨hall, rfl⟩
      exact leaf l column input hres hall
  | merge joint left right ihl ihr =>
      rcases select_merge_eq_ok_iff.mp h with ⟨first, hleft, second, hright, rfl⟩
      exact merge joint left right first second (ihl hleft) (ihr hright)

/-! ## Merging by keys -/

theorem mem_newcomers {key : α → String} {seen : List String} {entries : List α} {a : α}
    (h : a ∈ newcomers key seen entries) : a ∈ entries ∧ key a ∉ seen := by
  induction entries generalizing seen with
  | nil => exact absurd h List.not_mem_nil
  | cons b rest ih =>
      rw [newcomers] at h
      -- An entry is passed over if its key was seen, and otherwise kept, with its key seen from
      -- then on.
      split at h
      · next hseen =>
          exact ⟨List.mem_cons_of_mem b (ih h).1, (ih h).2⟩
      · next hseen =>
          rcases List.mem_cons.mp h with rfl | h
          · exact ⟨List.mem_cons_self, fun hk => hseen (List.contains_iff_mem.mpr hk)⟩
          · exact ⟨List.mem_cons_of_mem b (ih h).1,
              fun hk => (ih h).2 (List.mem_cons_of_mem (key b) hk)⟩

/-- An entry with a new key is represented by the first entry of its key. -/
theorem exists_newcomer {key : α → String} {seen : List String} {entries : List α} {a : α}
    (ha : a ∈ entries) (hk : key a ∉ seen) : ∃ b ∈ newcomers key seen entries, key b = key a := by
  induction entries generalizing seen with
  | nil => exact absurd ha List.not_mem_nil
  | cons c rest ih =>
      -- The first entry with the key is the newcomer that stands for all of them.
      rw [newcomers]
      by_cases hseen : seen.contains (key c) = true
      · rw [if_pos hseen]
        rcases List.mem_cons.mp ha with rfl | ha
        · exact absurd (List.contains_iff_mem.mp hseen) hk
        · exact ih ha hk
      · rw [if_neg hseen]
        by_cases hc : key a = key c
        · exact ⟨c, List.mem_cons_self, hc.symm⟩
        · have harest : a ∈ rest := by
            rcases List.mem_cons.mp ha with rfl | ha
            · exact absurd rfl hc
            · exact ha
          have hnew : key a ∉ key c :: seen := by
            rw [List.mem_cons, not_or]
            exact ⟨hc, hk⟩
          rcases ih harest hnew with ⟨b, hb, hkey⟩
          exact ⟨b, List.mem_cons_of_mem c hb, hkey⟩

theorem nodup_map_newcomers (key : α → String) (seen : List String) (entries : List α) :
    ((newcomers key seen entries).map key).Nodup := by
  induction entries generalizing seen with
  | nil => exact List.nodup_nil
  | cons b rest ih =>
      rw [newcomers]
      split
      · exact ih seen
      · rw [List.map_cons, List.nodup_cons]
        refine ⟨fun hmem => ?_, ih (key b :: seen)⟩
        rcases List.mem_map.mp hmem with ⟨c, hc, hkey⟩
        exact (mem_newcomers hc).2 (hkey ▸ List.mem_cons_self)

/-- A merge keeps keys distinct, whatever the keys of the right list are. -/
theorem nodup_map_mergeBy (joint : Conjunction) {key : α → String} {left : List α}
    (right : List α) (hleft : (left.map key).Nodup) :
    ((mergeBy joint key left right).map key).Nodup := by
  cases joint with
  | and => exact hleft.sublist (List.filter_sublist.map key)
  | or =>
      simp only [mergeBy, union, List.map_append]
      refine List.nodup_append.mpr ⟨hleft, nodup_map_newcomers key _ right, ?_⟩
      intro k hk l hl hkl
      rcases List.mem_map.mp hl with ⟨b, hb, rfl⟩
      exact (mem_newcomers hb).2 (hkl ▸ hk)

theorem mergeBy_subset {joint : Conjunction} {key : α → String} {left right entries : List α}
    (hleft : left ⊆ entries) (hright : right ⊆ entries) :
    mergeBy joint key left right ⊆ entries := by
  intro a ha
  cases joint with
  | and => exact hleft (List.mem_filter.mp ha).1
  | or =>
      rcases List.mem_append.mp ha with ha | ha
      · exact hleft ha
      · exact hright (mem_newcomers ha).1

/-- Where a key stands for its entry, merging lists by keys is joining memberships. -/
theorem mem_mergeBy {key : α → String} {left right entries : List α} {a : α} {first second : Bool}
    (joint : Conjunction) (hkey : ∀ b ∈ entries, key b = key a → b = a)
    (hright : right ⊆ entries) (hleft : left ⊆ entries)
    (hfirst : a ∈ left ↔ first = true) (hsecond : a ∈ right ↔ second = true) :
    a ∈ mergeBy joint key left right ↔ joint.apply first second = true := by
  cases joint with
  | and =>
      rw [Conjunction.apply, Bool.and_eq_true, ← hfirst, ← hsecond]
      simp only [mergeBy, intersect, List.mem_filter, List.contains_iff_mem, List.mem_map]
      constructor
      · -- A left entry is kept for the key of a right one, which is itself.
        rintro ⟨ha, b, hb, hba⟩
        exact ⟨ha, hkey b (hright hb) hba ▸ hb⟩
      · rintro ⟨ha, hb⟩
        exact ⟨ha, a, hb, rfl⟩
  | or =>
      rw [Conjunction.apply, Bool.or_eq_true, ← hfirst, ← hsecond]
      simp only [mergeBy, union, List.mem_append]
      constructor
      · rintro (ha | ha)
        · exact Or.inl ha
        · exact Or.inr (mem_newcomers ha).1
      · rintro (ha | ha)
        · exact Or.inl ha
        · -- A right entry that is no newcomer has the key of a left one, which is itself.
          by_cases hseen : key a ∈ left.map key
          · rcases List.mem_map.mp hseen with ⟨b, hb, hba⟩
            exact Or.inl (hkey b (hleft hb) hba ▸ hb)
          · rcases exists_newcomer ha hseen with ⟨b, hb, hba⟩
            exact Or.inr (hkey b (hright (mem_newcomers hb).1) hba ▸ hb)

/-! ## Agreement -/

theorem truth_leaf_of_resolve {columns : List Column} {l : Leaf} {column : Column} {input : Input}
    (hres : l.resolve columns = .ok (column, input)) (row : Row) :
    (Condition.leaf l).truth columns row = l.test column input row := by
  rw [truth, Leaf.truth, hres]
  rfl

theorem select_subset {row : α → Row} {columns : List Column} {condition : Condition}
    {entries found : List α} (h : select row columns condition entries = .ok found) :
    found ⊆ entries := by
  refine select_induction (motive := fun _ found => found ⊆ entries) ?_ ?_ h
  · intro l column input _ _ a ha
    exact (List.mem_filter.mp ha).1
  · intro joint left right first second hfirst hsecond
    exact mergeBy_subset hfirst hsecond

theorem nodup_map_select {row : α → Row} {columns : List Column} {condition : Condition}
    {entries found : List α} (h : select row columns condition entries = .ok found)
    (hids : (entries.map fun entry => (row entry).id).Nodup) :
    (found.map fun entry => (row entry).id).Nodup := by
  refine select_induction
    (motive := fun _ found => (found.map fun entry => (row entry).id).Nodup) ?_ ?_ h
  · intro l column input _ _
    exact hids.sublist (List.filter_sublist.map _)
  · intro joint left right first second hfirst _
    exact nodup_map_mergeBy joint second hfirst

/-- Where selection succeeds, the condition has a truth value at every row. -/
theorem exists_truth_of_select {row : α → Row} {columns : List Column} {condition : Condition}
    {entries found : List α} (h : select row columns condition entries = .ok found) {a : α}
    (ha : a ∈ entries) : ∃ b, condition.truth columns (row a) = .ok b := by
  refine select_induction
    (motive := fun condition _ => ∃ b, condition.truth columns (row a) = .ok b) ?_ ?_ h
  · intro l column input hres hall
    rcases hall a ha with ⟨b, hb⟩
    exact ⟨b, (truth_leaf_of_resolve hres (row a)).trans hb⟩
  · rintro joint left right _ _ ⟨b, hb⟩ ⟨c, hc⟩
    refine ⟨joint.apply b c, ?_⟩
    rw [truth, hb, hc]
    rfl

/-- Selection agrees with the condition at a row whose id stands for it. -/
theorem mem_select_iff_of_id {row : α → Row} {columns : List Column} {condition : Condition}
    {entries found : List α} (h : select row columns condition entries = .ok found) {a : α}
    (ha : a ∈ entries) (hkey : ∀ b ∈ entries, (row b).id = (row a).id → b = a) :
    a ∈ found ↔ condition.truth columns (row a) = .ok true := by
  -- A merge needs of its two lists that they hold given entries only, besides the agreement.
  have hagree : found ⊆ entries ∧
      ∀ b, condition.truth columns (row a) = .ok b → (a ∈ found ↔ b = true) := by
    refine select_induction (motive := fun condition found => found ⊆ entries ∧
      ∀ b, condition.truth columns (row a) = .ok b → (a ∈ found ↔ b = true)) ?_ ?_ h
    · intro l column input hres _
      refine ⟨fun b hb => (List.mem_filter.mp hb).1, fun b hb => ?_⟩
      rw [truth_leaf_of_resolve hres] at hb
      rw [List.mem_filter, passed_eq_true_iff, hb, Except.ok.injEq]
      exact and_iff_right ha
    · rintro joint left right first second ⟨hfirst, ihl⟩ ⟨hsecond, ihr⟩
      refine ⟨mergeBy_subset hfirst hsecond, fun b hb => ?_⟩
      simp only [truth, bind_eq_ok_iff, Except.ok.injEq] at hb
      rcases hb with ⟨bl, hbl, br, hbr, rfl⟩
      exact mem_mergeBy joint hkey hsecond hfirst (ihl bl hbl) (ihr br hbr)
  rcases exists_truth_of_select h ha with ⟨b, hb⟩
  rw [hagree.2 b hb, hb, Except.ok.injEq]

/-- Selection agrees with the condition read row by row, if every id stands for one entry. -/
theorem mem_select_iff {row : α → Row} {columns : List Column} {condition : Condition}
    {entries found : List α} (h : select row columns condition entries = .ok found)
    (hids : (entries.map fun entry => (row entry).id).Nodup) {a : α} (ha : a ∈ entries) :
    a ∈ found ↔ condition.truth columns (row a) = .ok true :=
  mem_select_iff_of_id h ha fun _ hb heq => List.inj_on_of_nodup_map hids hb ha heq

/-- If the ids are distinct, the selected rows are the rows at which the condition is true, and it
has a truth value at every row. No row is selected twice. -/
theorem mem_filterRows_iff_truth {columns : List Column} {condition : Condition}
    {rows found : List Row} (hids : (rows.map Row.id).Nodup)
    (h : condition.filterRows columns rows = .ok found) :
    (∀ row ∈ rows, ∃ b, condition.truth columns row = .ok b) ∧
      (∀ row, row ∈ found ↔ row ∈ rows ∧ condition.truth columns row = .ok true) ∧
      found.Nodup := by
  -- All that was selected comes from the rows, where distinct ids make a row known by its id.
  refine ⟨fun row hrow => exists_truth_of_select h hrow, fun row => ?_, ?_⟩
  · constructor
    · intro hrow
      have hmem : row ∈ rows := select_subset h hrow
      exact ⟨hmem, (mem_select_iff h hids hmem).mp hrow⟩
    · rintro ⟨hmem, htrue⟩
      exact (mem_select_iff h hids hmem).mpr htrue
  · exact List.Nodup.of_map Row.id (nodup_map_select h hids)

theorem mem_filterRows_iff_truth_overlapping :
    let columns : List Column :=
      [⟨"0000", "Name", .text, none⟩, ⟨"t1", "Tags", .multipleSelect, none⟩]
    let rows : List Row :=
      [⟨[("Name", .string "apple"), ("Tags", .array [.string "red"]), ("_id", .string "r1")]⟩,
        ⟨[("Name", .string "banana"), ("_id", .string "r2")]⟩,
        ⟨[("Name", .string "cherry"), ("Tags", .array [.string "red"]), ("_id", .string "r3")]⟩]
    let condition : Condition :=
      .merge .or (.leaf ⟨"Name", .like, "%an%"⟩)
        (.merge .and (.leaf ⟨"Tags", .equal, "red"⟩) (.leaf ⟨"Name", .unequal, "apple"⟩))
    let found : List Row :=
      [⟨[("Name", .string "banana"), ("_id", .string "r2")]⟩,
        ⟨[("Name", .string "cherry"), ("Tags", .array [.string "red"]), ("_id", .string "r3")]⟩]
    (rows.map Row.id).Nodup ∧ condition.filterRows columns rows = .ok found ∧
      (∀ row ∈ rows, ∃ b, condition.truth columns row = .ok b) ∧
      (∀ row, row ∈ found ↔ row ∈ rows ∧ condition.truth columns row = .ok true) ∧
      found.Nodup := by
  intro columns rows condition found
  have hids : (rows.map Row.id).Nodup := by decide
  have hfound : condition.filterRows columns rows = .ok found := by decide
  exact ⟨hids, hfound, mem_filterRows_iff_truth hids hfound⟩

end Condition

end GridQuery
