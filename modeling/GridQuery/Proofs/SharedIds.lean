import GridQuery.Proofs.RowMeaning

/-!
# Rows that Share an Id

What a merge makes of rows whose ids are not distinct, be it that ids are repeated, missing, or no
strings; the last two kinds all have the empty id.

A merge knows the rows of its lists by their ids. So a selection does not have to agree with the
condition at a row: of two rows with one id, the left side may select the one and the right side
the other, and "and" then keeps a row at which its right side is false, while "or" takes only one
of the two. It does agree at ids. Say that a comparison is true of an id if it is true at some row
of that id, and join these truths as the condition says. An id is then among the selected ones if
and only if the condition is true of it, with no hypothesis on the rows.

What is true at a row is true of its id, because comparisons only gain truth and the connectives
keep what is gained. Hence no id of a row that should be selected gets lost, and a row that does
not share its id is selected where it should be, whatever the other rows are.

## Main definitions

* `Condition.truthOfId`: The truth of a condition at an id.

## Theorems

* `mem_map_mergeBy_iff`: On keys a merge is a connective.
* `mem_map_id_select_iff`: The ids of a selection are those of which the condition is true.
* `truthOfId_of_truth`: What is true at a row is true of its id.
* `filterRows_merge_by_id`: What "and" and "or" select, for rows with any ids.
* `not_filterRows_merge`: Rows without ids stand in for each other.
-/

namespace GridQuery

/-- More truth on both sides leaves a connective true. -/
theorem Conjunction.apply_mono (joint : Conjunction) {a b c d : Bool} (hac : a = true → c = true)
    (hbd : b = true → d = true) (h : joint.apply a b = true) : joint.apply c d = true := by
  cases joint with
  | and =>
      rw [apply, Bool.and_eq_true] at h ⊢
      exact h.imp hac hbd
  | or =>
      rw [apply, Bool.or_eq_true] at h ⊢
      exact h.imp hac hbd

namespace Condition

variable {α : Type}

/-- The truth of a condition at an id: of a comparison it is its truth at some row with the id. -/
def truthOfId (columns : List Column) (rows : List Row) (id : String) : Condition → Bool
  | .leaf l => rows.any fun row => row.id == id && passed (l.truth columns row)
  | .merge joint left right =>
    joint.apply (truthOfId columns rows id left) (truthOfId columns rows id right)

/-- A key is in a merge of lists as the connective says of its being in the lists. -/
theorem mem_map_mergeBy_iff (joint : Conjunction) {key : α → String} {left right : List α}
    {k : String} {first second : Bool} (hfirst : k ∈ left.map key ↔ first = true)
    (hsecond : k ∈ right.map key ↔ second = true) :
    k ∈ (mergeBy joint key left right).map key ↔ joint.apply first second = true := by
  cases joint with
  | and =>
      -- Of both sides the left rows remain, and the right side is only asked for keys.
      rw [Conjunction.apply, Bool.and_eq_true, ← hfirst, ← hsecond]
      simp only [mergeBy, intersect, List.mem_map, List.mem_filter, List.contains_iff_mem]
      constructor
      · rintro ⟨a, ⟨ha, hright⟩, rfl⟩
        exact ⟨⟨a, ha, rfl⟩, hright⟩
      · rintro ⟨⟨a, ha, rfl⟩, hright⟩
        exact ⟨a, ⟨ha, hright⟩, rfl⟩
  | or =>
      -- A key of the union is a left key or that of a newcomer.
      rw [Conjunction.apply, Bool.or_eq_true, ← hfirst, ← hsecond]
      simp only [mergeBy, union, List.map_append, List.mem_append]
      constructor
      · rintro (hk | hk)
        · exact .inl hk
        · rcases List.mem_map.mp hk with ⟨a, ha, rfl⟩
          exact .inr (List.mem_map_of_mem (mem_newcomers ha).1)
      · rintro (hk | hk)
        · exact .inl hk
        · -- A right key is there already, or the first entry that has it is a newcomer.
          by_cases hseen : k ∈ left.map key
          · exact .inl hseen
          · rcases List.mem_map.mp hk with ⟨a, ha, rfl⟩
            rcases exists_newcomer ha hseen with ⟨b, hb, hkey⟩
            exact .inr (hkey ▸ List.mem_map_of_mem hb)

/-- The ids of a selection are those of which the condition is true. -/
theorem mem_map_id_select_iff {row : α → Row} {columns : List Column} {condition : Condition}
    {entries found : List α} (h : select row columns condition entries = .ok found) (id : String) :
    id ∈ found.map (fun entry => (row entry).id) ↔
      condition.truthOfId columns (entries.map row) id = true := by
  refine select_induction (motive := fun condition found =>
    id ∈ found.map (fun entry => (row entry).id) ↔
      condition.truthOfId columns (entries.map row) id = true) ?_ ?_ h
  · intro l column input hres _
    -- A leaf holds of an id where one row with the id passes it.
    have htest : ∀ a, l.truth columns (row a) = l.test column input (row a) := fun a =>
      truth_leaf_of_resolve hres (row a)
    simp only [truthOfId, List.any_map, List.any_eq_true, Function.comp_apply, Bool.and_eq_true,
      beq_iff_eq, List.mem_map, List.mem_filter, htest]
    refine exists_congr fun a => ?_
    constructor
    · rintro ⟨⟨ha, hpassed⟩, hid⟩
      exact ⟨ha, hid, hpassed⟩
    · rintro ⟨ha, hid, hpassed⟩
      exact ⟨⟨ha, hpassed⟩, hid⟩
  · intro joint left right first second hfirst hsecond
    exact mem_map_mergeBy_iff joint hfirst hsecond

/-- What is true at a row is true of its id. -/
theorem truthOfId_of_truth {columns : List Column} {condition : Condition} {rows : List Row}
    {row : Row} (hrow : row ∈ rows) (h : condition.truth columns row = .ok true) :
    condition.truthOfId columns rows row.id = true := by
  have hgains : ∀ b, condition.truth columns row = .ok b → b = true →
      condition.truthOfId columns rows row.id = true := by
    clear h
    induction condition with
    | leaf l =>
        -- The row itself is the one with its id that passes.
        rintro b hb rfl
        refine List.any_eq_true.mpr ⟨row, hrow, ?_⟩
        rw [Bool.and_eq_true, beq_iff_eq, passed_eq_true_iff]
        exact ⟨rfl, hb⟩
    | merge joint left right ihl ihr =>
        -- Either conjunction only gains where its sides gain.
        intro b hb htrue
        simp only [truth, bind_eq_ok_iff, Except.ok.injEq] at hb
        rcases hb with ⟨bl, hbl, br, hbr, rfl⟩
        exact joint.apply_mono (ihl bl hbl) (ihr br hbr) htrue
  exact hgains true h rfl

/-- What a merge selects from rows with any ids. Both sides have a truth value at every row. If the
connective makes them true, a row with the same id is selected, and this row itself if and only if
it makes them true, unless the id is shared. Selected are given rows, with "and" no others than the
left side selects and with "or" all of those; and their ids are those that the connective makes
true, a comparison being true of an id where it is true at a row of that id. -/
theorem filterRows_merge_by_id {columns : List Column} {joint : Conjunction}
    {left right : Condition} {rows found : List Row}
    (h : (Condition.merge joint left right).filterRows columns rows = .ok found) :
    (∀ row ∈ rows, ∃ b c, left.truth columns row = .ok b ∧ right.truth columns row = .ok c ∧
      (joint.apply b c = true → ∃ other ∈ found, other.id = row.id) ∧
      ((∀ other ∈ rows, other.id = row.id → other = row) →
        (row ∈ found ↔ joint.apply b c = true))) ∧
    (∃ first, left.filterRows columns rows = .ok first ∧ found ⊆ rows ∧
      (joint = .and → found ⊆ first) ∧ (joint = .or → first ⊆ found)) ∧
    ∀ id, (∃ row ∈ found, row.id = id) ↔
      joint.apply (left.truthOfId columns rows id) (right.truthOfId columns rows id) = true := by
  -- The ids that are found are those of which the condition holds, as one induction shows.
  have hids : ∀ id, (∃ row ∈ found, row.id = id) ↔
      (Condition.merge joint left right).truthOfId columns rows id = true := by
    intro id
    rw [← List.map_id rows, ← List.mem_map (f := Row.id)]
    exact mem_map_id_select_iff h id
  refine ⟨fun row hrow => ?_, ?_, hids⟩
  · -- Every row was tested on both sides, or there would be nothing found.
    rcases exists_truth_of_select h hrow with ⟨value, hvalue⟩
    have hsides := hvalue
    simp only [truth, bind_eq_ok_iff, Except.ok.injEq] at hsides
    rcases hsides with ⟨b, hb, c, hc, rfl⟩
    refine ⟨b, c, hb, hc, fun htrue => ?_, fun hunique => ?_⟩
    · rw [htrue] at hvalue
      exact (hids row.id).mpr (truthOfId_of_truth hrow hvalue)
    · -- A row alone with its id is found on its own account.
      rw [mem_select_iff_of_id h hrow hunique, hvalue, Except.ok.injEq]
  · have hsubset := select_subset h
    rcases select_merge_eq_ok_iff.mp h with ⟨first, hfirst, second, -, rfl⟩
    refine ⟨first, hfirst, hsubset, ?_, ?_⟩
    · rintro rfl
      exact fun row hrow => (List.mem_filter.mp hrow).1
    · rintro rfl
      exact List.subset_append_left _ _

/-- Two rows have no id and one has a number for one; only the last row does not share its id. -/
theorem filterRows_merge_by_id_missing :
    let columns : List Column := [⟨"0000", "Name", .text, none⟩]
    let named (name : String) : Row := ⟨[("Name", .string name)]⟩
    let numbered : Row := ⟨[("Name", .string "c"), ("_id", .number (.int 7))]⟩
    let known : Row := ⟨[("Name", .string "b"), ("_id", .string "r1")]⟩
    let left : Condition := .leaf ⟨"Name", .equal, "a"⟩
    let right : Condition := .leaf ⟨"Name", .equal, "b"⟩
    let rows : List Row := [named "a", named "b", numbered, known]
    (Condition.merge .or left right).filterRows columns rows = .ok [named "a", known] ∧
      (known ∈ [named "a", known] ↔ Conjunction.or.apply false true = true) ∧
      ∃ other ∈ [named "a", known], other.id = (named "b").id := by
  intro columns named numbered known left right rows
  have h : (Condition.merge .or left right).filterRows columns rows =
      .ok [named "a", known] := by decide
  rcases filterRows_merge_by_id h with ⟨hrows, -, -⟩
  have hunique : ∀ other ∈ rows, other.id = known.id → other = known := by decide
  refine ⟨h, ?_, ?_⟩
  · rcases hrows known (by decide) with ⟨b, c, hb, hc, -, hiff⟩
    have hleft : left.truth columns known = .ok false := by decide
    have hright : right.truth columns known = .ok true := by decide
    cases hleft.symm.trans hb
    cases hright.symm.trans hc
    exact hiff hunique
  · rcases hrows (named "b") (by decide) with ⟨b, c, hb, hc, hother, -⟩
    have hright : right.truth columns (named "b") = .ok true := by decide
    cases hright.symm.trans hc
    refine hother ?_
    rw [Conjunction.apply, Bool.or_true]

/-- Two rows without ids stand in for each other: a row that is not called b is selected by a
conjunction that asks for it, and a row that is called b is not selected by a disjunction. -/
theorem not_filterRows_merge :
    let columns : List Column := [⟨"0000", "Name", .text, none⟩]
    let named (name : String) : Row := ⟨[("Name", .string name)]⟩
    let left : Condition := .leaf ⟨"Name", .equal, "a"⟩
    let right : Condition := .leaf ⟨"Name", .equal, "b"⟩
    (Condition.merge .and left right).filterRows columns [named "a", named "b"] =
        .ok [named "a"] ∧
      right.truth columns (named "a") = .ok false ∧
      (Condition.merge .or left right).filterRows columns [named "a", named "b"] =
        .ok [named "a"] ∧
      right.truth columns (named "b") = .ok true ∧ named "b" ∉ [named "a"] := by
  decide

end Condition

end GridQuery
