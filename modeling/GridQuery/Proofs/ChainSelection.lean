import GridQuery.Proofs.ChainGrammar
import GridQuery.Proofs.RowMeaning

/-!
# Selecting by a Chain

What one further comparison does to the rows that a chain has selected.

A conjunction selects with both sides and merges two lists by ids. Where the ids are distinct and
the right side is a single comparison, nothing of that is left to see: "and" filters what was
selected by the comparison, and "or" puts behind it those of the given entries that satisfy the
comparison and are new, in the order in which they were given. So a chain is worked out from the
left, one filter or one extension at a time, and facts about chains are by induction on the links.

An "and" looks only at what was selected so far. That is why the comparisons of a row of Ands may as
well be put to the selected rows alone.

## Main definitions

* `Leaf.admits`: A comparison is true at a row.
* `Leaf.Applies`: A comparison has a truth value at every entry.

## Theorems

* `select_leaf_eq_filter_iff`: A comparison filters the entries.
* `select_link_and`, `select_link_or`: What a further comparison does.
* `select_foldl_link_and_iff`: A row of Ands after a condition filters what it has selected.
* `exists_select_of_foldl_link`: A chain is selected only if its beginnings are.
-/

namespace GridQuery

/-- The comparison is true at a row. -/
def Leaf.admits (columns : List Column) (l : Leaf) (row : Row) : Bool :=
  Condition.passed (l.truth columns row)

/-- The comparison is one that its column allows, and has a truth value at every entry. -/
def Leaf.Applies {α : Type} (row : α → Row) (columns : List Column) (l : Leaf)
    (entries : List α) : Prop :=
  ∃ column input, l.resolve columns = .ok (column, input) ∧
    ∀ a ∈ entries, ∃ b, l.test column input (row a) = .ok b

theorem Leaf.Applies.mono {α : Type} {row : α → Row} {columns : List Column} {l : Leaf}
    {entries others : List α} (h : l.Applies row columns entries) (hsub : others ⊆ entries) :
    l.Applies row columns others := by
  rcases h with ⟨column, input, hresolve, htest⟩
  exact ⟨column, input, hresolve, fun a ha => htest a (hsub ha)⟩

namespace Condition

variable {α : Type} {row : α → Row} {columns : List Column} {entries found : List α}

theorem select_leaf_eq_filter_iff {l : Leaf} :
    select row columns (.leaf l) entries = .ok found ↔
      l.Applies row columns entries ∧ found = entries.filter fun a => l.admits columns (row a) := by
  -- The truth of a comparison is its test, once column and input are known.
  have htruth : ∀ column input, l.resolve columns = .ok (column, input) →
      (fun a => passed (l.test column input (row a))) = fun a => l.admits columns (row a) := by
    intro column input hresolve
    funext a
    rw [Leaf.admits, Leaf.truth, hresolve]
    rfl
  rw [select_leaf_eq_ok_iff]
  constructor
  · rintro ⟨column, input, hresolve, hkeep⟩
    rcases keep_eq_ok_iff.mp hkeep with ⟨htest, rfl⟩
    exact ⟨⟨column, input, hresolve, htest⟩, by rw [htruth column input hresolve]⟩
  · rintro ⟨⟨column, input, hresolve, htest⟩, rfl⟩
    refine ⟨column, input, hresolve, keep_eq_ok_iff.mpr ⟨htest, ?_⟩⟩
    rw [htruth column input hresolve]

/-! ## Merging with a filtered list -/

theorem intersect_filter {key : α → String} {left : List α} (hsub : left ⊆ entries)
    (hkeys : (entries.map key).Nodup) (p : α → Bool) :
    intersect key left (entries.filter p) = left.filter p := by
  rw [intersect]
  refine List.filter_congr fun a ha => ?_
  rw [Bool.eq_iff_iff, List.contains_iff_mem, List.mem_map]
  constructor
  · rintro ⟨b, hb, hkey⟩
    rcases List.mem_filter.mp hb with ⟨hmem, hp⟩
    exact List.inj_on_of_nodup_map hkeys hmem (hsub ha) hkey ▸ hp
  · intro hp
    exact ⟨a, List.mem_filter.mpr ⟨hsub ha, hp⟩, rfl⟩

/-- Where no two entries have one key, the newcomers are those whose key was not seen before. -/
theorem newcomers_eq_filter {key : α → String} (seen : List String)
    (hkeys : (entries.map key).Nodup) :
    newcomers key seen entries = entries.filter fun a => !seen.contains (key a) := by
  induction entries generalizing seen with
  | nil => rfl
  | cons a rest ih =>
      rw [List.map_cons, List.nodup_cons] at hkeys
      rw [newcomers, List.filter_cons]
      by_cases hseen : seen.contains (key a) = true
      · rw [if_pos hseen, hseen, if_neg (by decide), ih seen hkeys.2]
      · rw [Bool.not_eq_true] at hseen
        rw [if_neg (by rw [hseen]; decide), hseen, if_pos (by decide), ih _ hkeys.2]
        congr 1
        -- The key of this entry is seen from here on, and no later entry has it.
        refine List.filter_congr fun b hb => ?_
        have hne : key b ≠ key a := fun heq => hkeys.1 (heq ▸ List.mem_map_of_mem hb)
        rw [List.contains_cons, beq_eq_false_iff_ne.mpr hne, Bool.false_or]

theorem union_filter {key : α → String} (left : List α) (hkeys : (entries.map key).Nodup)
    (p : α → Bool) :
    union key left (entries.filter p) =
      left ++ entries.filter fun a => p a && !(left.map key).contains (key a) := by
  have hfiltered : ((entries.filter p).map key).Nodup :=
    hkeys.sublist (List.filter_sublist.map key)
  rw [union, newcomers_eq_filter _ hfiltered, List.filter_filter]
  congr 1
  exact List.filter_congr fun a _ => Bool.and_comm _ _

/-! ## A further comparison -/

theorem select_link_and {left : Condition} {l : Leaf}
    (hids : (entries.map fun a => (row a).id).Nodup) :
    select row columns (left.link (.and, l)) entries = .ok found ↔
      ∃ first, select row columns left entries = .ok first ∧ l.Applies row columns entries ∧
        found = first.filter fun a => l.admits columns (row a) := by
  rw [link, select_merge_eq_ok_iff]
  refine exists_congr fun first => and_congr_right fun hfirst => ?_
  simp only [select_leaf_eq_filter_iff, mergeBy]
  constructor
  · rintro ⟨_, ⟨happlies, rfl⟩, rfl⟩
    exact ⟨happlies, intersect_filter (select_subset hfirst) hids _⟩
  · rintro ⟨happlies, rfl⟩
    exact ⟨_, ⟨happlies, rfl⟩, intersect_filter (select_subset hfirst) hids _⟩

theorem select_link_or {left : Condition} {l : Leaf}
    (hids : (entries.map fun a => (row a).id).Nodup) :
    select row columns (left.link (.or, l)) entries = .ok found ↔
      ∃ first, select row columns left entries = .ok first ∧ l.Applies row columns entries ∧
        found = first ++ entries.filter fun a =>
          l.admits columns (row a) && !(first.map fun b => (row b).id).contains (row a).id := by
  rw [link, select_merge_eq_ok_iff]
  refine exists_congr fun first => and_congr_right fun _ => ?_
  simp only [select_leaf_eq_filter_iff, mergeBy]
  -- The right side is a filter of the entries, and its newcomers are those that the left side
  -- lacks.
  constructor
  · rintro ⟨_, ⟨happlies, rfl⟩, rfl⟩
    exact ⟨happlies, union_filter first hids _⟩
  · rintro ⟨happlies, rfl⟩
    exact ⟨_, ⟨happlies, rfl⟩, union_filter first hids _⟩

theorem exists_select_of_link {left : Condition} {next : Conjunction × Leaf}
    (h : select row columns (left.link next) entries = .ok found) :
    ∃ first, select row columns left entries = .ok first := by
  rcases select_merge_eq_ok_iff.mp h with ⟨first, hfirst, -⟩
  exact ⟨first, hfirst⟩

theorem exists_select_of_foldl_link {left : Condition} (links : List (Conjunction × Leaf))
    (h : select row columns (links.foldl link left) entries = .ok found) :
    ∃ first, select row columns left entries = .ok first := by
  induction links generalizing left with
  | nil => exact ⟨found, h⟩
  | cons next links ih =>
      rcases ih h with ⟨first, hfirst⟩
      exact exists_select_of_link hfirst

/-- All comparisons of a row of Ands are put to all entries, and what was selected before them is
filtered by each. -/
theorem select_foldl_link_and_iff {left : Condition} {links : List (Conjunction × Leaf)}
    (hids : (entries.map fun a => (row a).id).Nodup) (hand : ∀ next ∈ links, next.1 = .and) :
    select row columns (links.foldl link left) entries = .ok found ↔
      ∃ first, select row columns left entries = .ok first ∧
        (∀ next ∈ links, next.2.Applies row columns entries) ∧
        found = first.filter fun a => links.all fun next => next.2.admits columns (row a) := by
  induction links generalizing left with
  | nil =>
      simp only [List.foldl_nil, List.all_nil, List.filter_true, List.not_mem_nil, false_implies,
        implies_true, true_and]
      exact ⟨fun h => ⟨found, h, rfl⟩, fun ⟨_, h, heq⟩ => heq ▸ h⟩
  | cons next links ih =>
      -- The first link filters what the left side found, and the links after it filter that again.
      rcases next with ⟨joint, l⟩
      rcases List.forall_mem_cons.mp hand with ⟨rfl, hrest⟩
      rw [List.foldl_cons, ih hrest]
      simp only [select_link_and hids, List.forall_mem_cons, List.all_cons]
      constructor
      · rintro ⟨_, ⟨first, hfirst, happlies, rfl⟩, hlinks, rfl⟩
        refine ⟨first, hfirst, ⟨happlies, hlinks⟩, ?_⟩
        rw [List.filter_filter]
        exact List.filter_congr fun a _ => Bool.and_comm _ _
      · rintro ⟨first, hfirst, ⟨happlies, hlinks⟩, rfl⟩
        refine ⟨_, ⟨first, hfirst, happlies, rfl⟩, hlinks, ?_⟩
        rw [List.filter_filter]
        exact List.filter_congr fun a _ => Bool.and_comm _ _

end Condition

end GridQuery
