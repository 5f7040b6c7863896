import GridQuery.Proofs.ChainSelection
import GridQuery.Table.Selection

/-!
# Conditions on Fewer Rows

What a condition selects from some of the rows, against what it has selected from all of them.

A comparison looks at one row at a time, so it does not care which others are there. A merge does:
it knows the rows of its two lists by their ids, and "or" takes the order of its result from both.
With distinct ids an id stands for its row, and then leaving out rows before the merge and after it
comes to the same, in the same order. So a condition may be put to a part of the rows by putting it
to all of them and taking the part afterwards.

The selected rows are such a part, but not in the order of the table, since "or" has put the rows of
its right side behind those of its left. That selecting from them once more leaves them in this
order is therefore no case of the first law. It follows from it side by side: among the rows of an
"or", the left side selects its own again and no others, and of what the right side selects only the
rows behind them are new, which are again a part of what it had selected.

## Theorems

* `Condition.exists_select_of_subset`: A condition can be put to some of the entries.
* `Condition.mem_select_of_subset`: It selects the same ones among them.
* `Condition.mergeBy_filter`: A merge of filtered lists.
* `Condition.select_filter`: Selecting from filtered entries.
* `Condition.select_self`: Selecting from what was selected.
* `Selection.matching_self`: The same of a condition text.
* `Condition.filterRows_filter_and_self`: The laws together, for rows and for selections.
-/

namespace GridQuery

namespace Condition

variable {α : Type} {row : α → Row} {columns : List Column} {condition : Condition}
  {entries others found kept : List α}

/-- Every comparison of a condition can be put to some of the entries if it can be put to all. -/
theorem exists_select_of_subset (h : select row columns condition entries = .ok found)
    (hsub : others ⊆ entries) : ∃ kept, select row columns condition others = .ok kept := by
  induction condition generalizing found with
  | leaf l =>
      rcases select_leaf_eq_filter_iff.mp h with ⟨happlies, -⟩
      exact ⟨_, select_leaf_eq_filter_iff.mpr ⟨happlies.mono hsub, rfl⟩⟩
  | merge joint left right ihl ihr =>
      rcases select_merge_eq_ok_iff.mp h with ⟨first, hfirst, second, hsecond, -⟩
      rcases ihl hfirst with ⟨keptl, hl⟩
      rcases ihr hsecond with ⟨keptr, hr⟩
      exact ⟨_, select_merge_eq_ok_iff.mpr ⟨keptl, hl, keptr, hr, rfl⟩⟩

/-- Whether an entry is selected does not depend on which others are there. -/
theorem mem_select_of_subset (h : select row columns condition entries = .ok found)
    (hids : (entries.map fun a => (row a).id).Nodup)
    (hkept : select row columns condition others = .ok kept)
    (hothers : (others.map fun a => (row a).id).Nodup) (hsub : others ⊆ entries) {a : α}
    (ha : a ∈ others) : a ∈ kept ↔ a ∈ found := by
  rw [mem_select_iff hkept hothers ha, mem_select_iff h hids (hsub ha)]

/-! ## Some of the entries -/

/-- Where a key stands for its entry, an entry has its key in a list if it is in the list. -/
theorem contains_map_iff {key : α → String} {list : List α} (hkeys : (entries.map key).Nodup)
    (hsub : list ⊆ entries) {a : α} (ha : a ∈ entries) :
    (list.map key).contains (key a) = true ↔ a ∈ list := by
  rw [List.contains_iff_mem, List.mem_map]
  constructor
  · rintro ⟨b, hb, hkey⟩
    exact List.inj_on_of_nodup_map hkeys (hsub hb) ha hkey ▸ hb
  · exact fun hmem => ⟨a, hmem, rfl⟩

/-- An entry that passes a test has its key in a list as it has it in the part that passes. -/
theorem contains_map_filter {key : α → String} {list : List α} (hkeys : (entries.map key).Nodup)
    (hsub : list ⊆ entries) {p : α → Bool} {a : α} (ha : a ∈ entries) (hp : p a = true) :
    ((list.filter p).map key).contains (key a) = (list.map key).contains (key a) := by
  have hpart : list.filter p ⊆ entries := fun b hb => hsub (List.mem_filter.mp hb).1
  rw [Bool.eq_iff_iff, contains_map_iff hkeys hpart ha, contains_map_iff hkeys hsub ha,
    List.mem_filter]
  exact and_iff_left hp

/-- Filtering two lists and merging them is merging them and filtering the result. -/
theorem mergeBy_filter (joint : Conjunction) {key : α → String} {left right : List α}
    (hkeys : (entries.map key).Nodup) (hleft : left ⊆ entries) (hright : right ⊆ entries)
    (hdistinct : (right.map key).Nodup) (p : α → Bool) :
    mergeBy joint key (left.filter p) (right.filter p) =
      (mergeBy joint key left right).filter p := by
  cases joint with
  | and =>
      -- Whether the other side has a row is asked by key, and a kept row is kept on both sides.
      simp only [mergeBy, intersect, List.filter_filter]
      refine List.filter_congr fun a ha => ?_
      cases hp : p a with
      | false => rw [Bool.and_false, Bool.false_and]
      | true => rw [contains_map_filter hkeys hright (hleft ha) hp, Bool.and_true, Bool.true_and]
  | or =>
      simp only [mergeBy]
      -- The left side stands in front; of the right side the newcomers are those with new keys.
      rw [union_filter (left.filter p) hdistinct, union, newcomers_eq_filter _ hdistinct,
        List.filter_append, List.filter_filter]
      congr 1
      refine List.filter_congr fun a ha => ?_
      cases hp : p a with
      | false => rw [Bool.false_and, Bool.false_and]
      | true => rw [contains_map_filter hkeys hleft (hright ha) hp]

/-- Selecting from the entries that pass a test is selecting from all and testing afterwards. -/
theorem select_filter (hids : (entries.map fun a => (row a).id).Nodup)
    (h : select row columns condition entries = .ok found) (p : α → Bool) :
    select row columns condition (entries.filter p) = .ok (found.filter p) := by
  induction condition generalizing found with
  | leaf l =>
      rcases select_leaf_eq_filter_iff.mp h with ⟨happlies, rfl⟩
      refine select_leaf_eq_filter_iff.mpr ⟨happlies.mono List.filter_sublist.subset, ?_⟩
      -- A leaf looks at one row at a time, so both filters can be swapped.
      rw [List.filter_filter, List.filter_filter]
      exact List.filter_congr fun a _ => Bool.and_comm _ _
  | merge joint left right ihl ihr =>
      rcases select_merge_eq_ok_iff.mp h with ⟨first, hfirst, second, hsecond, rfl⟩
      refine select_merge_eq_ok_iff.mpr ⟨_, ihl hfirst, _, ihr hsecond, ?_⟩
      exact mergeBy_filter joint hids (select_subset hfirst) (select_subset hsecond)
        (nodup_map_select hsecond hids) p

/-! ## The selected entries -/

section Parts

variable {key : α → String} {left right : List α}

/-- The entries of a union whose key the left list has are the left list. -/
theorem filter_union_of_contains :
    (union key left right).filter (fun a => (left.map key).contains (key a)) = left := by
  have hleft : left.filter (fun a => (left.map key).contains (key a)) = left :=
    List.filter_eq_self.mpr fun a ha => List.contains_iff_mem.mpr (List.mem_map_of_mem ha)
  have hright : (newcomers key (left.map key) right).filter
      (fun a => (left.map key).contains (key a)) = [] := by
    refine List.filter_eq_nil_iff.mpr fun a ha hkey => ?_
    exact (mem_newcomers ha).2 (List.contains_iff_mem.mp hkey)
  rw [union, List.filter_append, hleft, hright, List.append_nil]

/-- Its other entries are those of the right list. -/
theorem filter_union_of_not_contains (hdistinct : (right.map key).Nodup) :
    (union key left right).filter (fun a => !(left.map key).contains (key a)) =
      right.filter fun a => !(left.map key).contains (key a) := by
  have hleft : left.filter (fun a => !(left.map key).contains (key a)) = [] := by
    refine List.filter_eq_nil_iff.mpr fun a ha hkey => ?_
    rw [List.contains_iff_mem.mpr (List.mem_map_of_mem ha)] at hkey
    exact Bool.false_ne_true hkey
  rw [union, newcomers_eq_filter _ hdistinct, List.filter_append, hleft, List.nil_append,
    List.filter_filter]
  exact List.filter_congr fun a _ => Bool.and_self _

end Parts

/-- Of the entries of an "and", its left side selects all again if it does so of its own. -/
theorem select_intersect_eq {key : α → String} {first second : List α}
    (hfirst : (first.map fun a => (row a).id).Nodup)
    (hself : select row columns condition first = .ok first)
    (h : select row columns condition (intersect key first second) = .ok kept) :
    kept = intersect key first second := by
  have hpart := select_filter hfirst hself fun a => (second.map key).contains (key a)
  exact Except.ok.inj (h.symm.trans hpart)

/-- Of the entries of an "or", its left side selects its own again and no others. -/
theorem select_union_eq_left {first second : List α}
    (hids : (entries.map fun a => (row a).id).Nodup)
    (hfirst : select row columns condition entries = .ok first)
    (hself : select row columns condition first = .ok first)
    (hdistinct : ((union (fun a => (row a).id) first second).map fun a => (row a).id).Nodup)
    (hsub : union (fun a => (row a).id) first second ⊆ entries)
    (h : select row columns condition (union (fun a => (row a).id) first second) = .ok kept) :
    kept = first := by
  -- Filter what is kept of the union down to the first selection: that is the first selection kept
  -- of itself.
  have hpart := select_filter hdistinct h fun a =>
    (first.map fun b => (row b).id).contains (row a).id
  rw [filter_union_of_contains, hself, Except.ok.injEq] at hpart
  rw [hpart]
  refine (List.filter_eq_self.mpr fun a ha => ?_).symm
  -- Nothing else was kept, for a row that is kept passes wherever it stands.
  have hmem : a ∈ first :=
    (mem_select_of_subset hfirst hids h hdistinct hsub (select_subset h ha)).mp ha
  exact List.contains_iff_mem.mpr (List.mem_map_of_mem hmem)

/-- What was selected is selected again, in the order that it has. -/
theorem select_self (hids : (entries.map fun a => (row a).id).Nodup)
    (h : select row columns condition entries = .ok found) :
    select row columns condition found = .ok found := by
  induction condition generalizing found with
  | leaf l =>
      rcases select_leaf_eq_filter_iff.mp h with ⟨happlies, rfl⟩
      refine select_leaf_eq_filter_iff.mpr ⟨happlies.mono List.filter_sublist.subset, ?_⟩
      rw [List.filter_filter]
      exact List.filter_congr fun a _ => (Bool.and_self _).symm
  | merge joint left right ihl ihr =>
      have hsub : found ⊆ entries := select_subset h
      have hdistinct := nodup_map_select h hids
      rcases select_merge_eq_ok_iff.mp h with ⟨first, hfirst, second, hsecond, rfl⟩
      have hsecondIds := nodup_map_select hsecond hids
      rcases exists_select_of_subset hfirst hsub with ⟨keptl, hl⟩
      rcases exists_select_of_subset hsecond hsub with ⟨keptr, hr⟩
      refine select_merge_eq_ok_iff.mpr ⟨keptl, hl, keptr, hr, ?_⟩
      cases joint with
      | and =>
          -- The left side selects all of its own result, and the right side accepts all of it.
          rw [select_intersect_eq (nodup_map_select hfirst hids) (ihl hfirst) hl]
          refine List.filter_eq_self.mpr fun a ha => ?_
          have hmem : a ∈ second := (contains_map_iff hids (select_subset hsecond) (hsub ha)).mp
            (List.mem_filter.mp ha).2
          have hkept : a ∈ keptr :=
            (mem_select_of_subset hsecond hids hr hdistinct hsub ha).mpr hmem
          exact List.contains_iff_mem.mpr (List.mem_map_of_mem hkept)
      | or =>
          have hkeptl := select_union_eq_left hids hfirst (ihl hfirst) hdistinct hsub hl
          -- The right side may select rows of the left part too, but behind it the same as before.
          have hkeptr := select_filter hdistinct hr fun a =>
            !(first.map fun b => (row b).id).contains (row a).id
          rw [mergeBy, filter_union_of_not_contains hsecondIds,
            select_filter hsecondIds (ihr hsecond), Except.ok.injEq] at hkeptr
          rw [hkeptl, mergeBy, union, newcomers_eq_filter _ (nodup_map_select hr hdistinct),
            union, newcomers_eq_filter _ hsecondIds, hkeptr]

end Condition

/-- A condition text selects from its own result all of it. -/
theorem Selection.matching_self {columns : List Column} {rows found : List Row} {text : String}
    (hids : (rows.map Row.id).Nodup) (h : matching columns rows text = .ok found) :
    matching columns found text = .ok found := by
  rw [matching] at h ⊢
  split
  · rfl
  · next hblank =>
      -- The text is parsed again to the same condition.
      rw [if_neg hblank] at h
      cases hparse : Condition.parse text with
      | error e =>
          rw [hparse] at h
          exact absurd h (by simp only [reduceCtorEq, not_false_eq_true])
      | ok condition =>
          rw [hparse] at h
          exact Condition.select_self hids h

namespace Condition

/-- With distinct ids, a condition that selects from all rows selects from the rows that pass a test
those of its result that pass it, in the order of the result; and from its own result it selects all
of it, in the order that it has. So a selection does not change if it is narrowed by the text that
it comes from. -/
theorem filterRows_filter_and_self {columns : List Column} {condition : Condition}
    {rows found : List Row} (hids : (rows.map Row.id).Nodup)
    (h : condition.filterRows columns rows = .ok found) :
    (∀ p : Row → Bool,
      condition.filterRows columns (rows.filter p) = .ok (found.filter p)) ∧
      condition.filterRows columns found = .ok found ∧
      ∀ tableName text s, Selection.make tableName columns rows text = .ok s →
        s.narrow s.conditions = .ok s := by
  refine ⟨fun p => select_filter hids h p, select_self hids h, ?_⟩
  intro tableName text s hmake
  rcases map_eq_ok_iff.mp hmake with ⟨selected, hselected, rfl⟩
  exact map_eq_ok_iff.mpr ⟨selected, Selection.matching_self hids hselected, rfl⟩

/-- The last row of the table comes first, and stays there without the row behind it. -/
theorem filterRows_filter_and_self_reordered :
    let columns : List Column := [⟨"0000", "N", .text, none⟩]
    let named (name id : String) : Row := ⟨[("N", .string name), ("_id", .string id)]⟩
    let rows : List Row := [named "a" "r1", named "b" "r2", named "x" "r3", named "c" "r4"]
    let found : List Row := [named "c" "r4", named "a" "r1", named "b" "r2"]
    let condition : Condition := .merge .or (.leaf ⟨"N", .equal, "c"⟩)
      (.merge .and (.leaf ⟨"N", .unequal, "x"⟩)
        (.merge .or (.leaf ⟨"N", .equal, "b"⟩) (.leaf ⟨"N", .like, "%a%"⟩)))
    let s : Selection :=
      ⟨"T", columns, [named "b" "r2", named "a" "r1"], "N = b or N like %a%"⟩
    (rows.map Row.id).Nodup ∧ condition.filterRows columns rows = .ok found ∧
      condition.filterRows columns (rows.filter fun row => row.id != "r1") =
        .ok (found.filter fun row => row.id != "r1") ∧
      condition.filterRows columns found = .ok found ∧
      Selection.make "T" columns rows "N = b or N like %a%" = .ok s ∧
      s.narrow "N = b or N like %a%" = .ok s := by
  intro columns named rows found condition s
  have hids : (rows.map Row.id).Nodup := by decide
  have hfound : condition.filterRows columns rows = .ok found := by decide
  have hmake : Selection.make "T" columns rows "N = b or N like %a%" = .ok s := by decide +kernel
  rcases filterRows_filter_and_self hids hfound with ⟨hfilter, hself, hnarrow⟩
  exact ⟨hids, hfound, hfilter _, hself, hmake, hnarrow "T" _ s hmake⟩

end Condition

end GridQuery
