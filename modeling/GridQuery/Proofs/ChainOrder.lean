import GridQuery.Proofs.ChainSelection
import Mathlib.Data.List.Induction
import Mathlib.Order.Bounds.Basic

/-!
# The Order of Selected Rows

In which order a chain of comparisons puts the rows that it selects.

"And" keeps the order of what was selected before, and "or" puts new rows behind it. So a row stands
where it came in, but it may come in more than once: an "and" drops it and a later "or" takes it in
again, and then its first coming counts for nothing. What counts is the comparison since which it
has been there to the end. That number is its entry, and the rows are sorted by their entries, those
of one entry by their places in the table.

The entry is said of the beginnings of the chain, each of which is a condition by itself. They are
the states of the selection, one for each comparison, and every law here is proved by adding a
comparison at the end: it drops rows or it brings in rows whose entry is the new comparison, and
leaves the entries of the others alone.

## Main definitions

* `chainUpTo`: The condition of the first comparisons of a chain.
* `SelectedAt`, `StaysFrom`: A beginning of the chain selects a row, and so do all longer ones.
* `IsEntry`: The least number of comparisons from which on a row is selected.
* `Precedes`: One row comes before another by entry and place.
* `Arranged`: Rows that have entries and are sorted by them.

## Theorems

* `isEntry_append_of_mem`, `isEntry_append_of_not_mem`: The entries after a further comparison.
* `Arranged.keep`, `Arranged.extend`: What a further comparison does to sorted rows.
* `arranged_chainOf`: The selected rows of a chain have entries and are sorted by them.
* `filterRows_sorted_by_entry`: The same of conditions that were read from a text.
-/

namespace GridQuery

namespace Condition

/-- The condition of the first comparisons of a chain; there is always at least one. -/
def chainUpTo (first : Leaf) (links : List (Conjunction × Leaf)) (count : Nat) : Condition :=
  chainOf first (links.take (count - 1))

section Entries

variable (columns : List Column) (rows : List Row) (first : Leaf)
  (links : List (Conjunction × Leaf))

/-- The chain of the first comparisons selects the row. -/
def SelectedAt (count : Nat) (row : Row) : Prop :=
  ∃ found, (chainUpTo first links count).filterRows columns rows = .ok found ∧ row ∈ found

/-- The chains of so many comparisons and of more select the row, up to the whole chain. -/
def StaysFrom (row : Row) (count : Nat) : Prop :=
  1 ≤ count ∧ count ≤ links.length + 1 ∧
    ∀ more, count ≤ more → more ≤ links.length + 1 → SelectedAt columns rows first links more row

/-- The least number of comparisons from which on the row is selected. -/
def IsEntry (row : Row) (count : Nat) : Prop :=
  IsLeast {count | StaysFrom columns rows first links row count} count

/-- One row has an earlier entry than another, or the same and an earlier place in the table. -/
def Precedes (a b : Row) : Prop :=
  ∃ j k, IsEntry columns rows first links a j ∧ IsEntry columns rows first links b k ∧
    (j < k ∨ j = k ∧ rows.idxOf a < rows.idxOf b)

/-- Rows that have entries and are sorted by them. -/
structure Arranged (part : List Row) : Prop where
  entry : ∀ row ∈ part, ∃ count, IsEntry columns rows first links row count
  precedes : part.Pairwise (Precedes columns rows first links)

end Entries

variable {columns : List Column} {rows found : List Row} {first : Leaf}
  {links : List (Conjunction × Leaf)} {next : Conjunction × Leaf} {row : Row}

theorem chainOf_append_singleton (first : Leaf) (links : List (Conjunction × Leaf))
    (next : Conjunction × Leaf) :
    chainOf first (links ++ [next]) = (chainOf first links).link next := by
  rw [chainOf, List.foldl_append]
  rfl

theorem chainUpTo_length (first : Leaf) (links : List (Conjunction × Leaf)) :
    chainUpTo first links (links.length + 1) = chainOf first links := by
  rw [chainUpTo, Nat.add_sub_cancel, List.take_length]

theorem chainUpTo_append {count : Nat} (h : count ≤ links.length + 1) (next : Conjunction × Leaf) :
    chainUpTo first (links ++ [next]) count = chainUpTo first links count := by
  rw [chainUpTo, chainUpTo, List.take_append_of_le_length (by omega)]

/-! ## Adding a comparison -/

/-- What the whole chain has selected decides at its length. -/
theorem selectedAt_length_iff (h : (chainOf first links).filterRows columns rows = .ok found) :
    SelectedAt columns rows first links (links.length + 1) row ↔ row ∈ found := by
  rw [SelectedAt, chainUpTo_length, h]
  simp only [Except.ok.injEq, exists_eq_left']

theorem selectedAt_append_iff {count : Nat} (h : count ≤ links.length + 1) :
    SelectedAt columns rows first (links ++ [next]) count row ↔
      SelectedAt columns rows first links count row := by
  rw [SelectedAt, SelectedAt, chainUpTo_append h]

/-- A row that was selected before and still is stays from where it stayed before. -/
theorem staysFrom_append_iff {count : Nat} (h : count ≤ links.length + 1)
    (hlast : SelectedAt columns rows first (links ++ [next]) (links.length + 2) row) :
    StaysFrom columns rows first (links ++ [next]) row count ↔
      StaysFrom columns rows first links row count := by
  have hlength : (links ++ [next]).length + 1 = links.length + 2 := by
    rw [List.length_append, List.length_singleton]
  rw [StaysFrom, StaysFrom, hlength]
  constructor
  · rintro ⟨hpos, -, hmore⟩
    refine ⟨hpos, h, fun more hle hlt => ?_⟩
    exact (selectedAt_append_iff hlt).1 (hmore more hle (by omega))
  · rintro ⟨hpos, -, hmore⟩
    refine ⟨hpos, by omega, fun more hle hlt => ?_⟩
    -- Among the longer prefixes only the whole chain is new, and there the row is selected as well.
    rcases Nat.lt_or_ge more (links.length + 2) with hlt' | hge
    · exact (selectedAt_append_iff (by omega)).2 (hmore more hle (by omega))
    · rw [Nat.le_antisymm hlt hge]
      exact hlast

/-- A further comparison leaves the entry of a row alone that was selected before. -/
theorem isEntry_append_of_mem {count : Nat}
    (hlast : SelectedAt columns rows first (links ++ [next]) (links.length + 2) row)
    (h : IsEntry columns rows first links row count) :
    IsEntry columns rows first (links ++ [next]) row count := by
  have hle : count ≤ links.length + 1 := h.1.2.1
  refine ⟨(staysFrom_append_iff hle hlast).2 h.1, fun other hother => ?_⟩
  rcases Nat.lt_or_ge other (links.length + 2) with hlt | hge
  · exact h.2 ((staysFrom_append_iff (by omega) hlast).1 hother)
  · omega

/-- A row that was not selected before has the further comparison as its entry. -/
theorem isEntry_append_of_not_mem
    (hbefore : ¬ SelectedAt columns rows first links (links.length + 1) row)
    (hlast : SelectedAt columns rows first (links ++ [next]) (links.length + 2) row) :
    IsEntry columns rows first (links ++ [next]) row (links.length + 2) := by
  have hlength : (links ++ [next]).length + 1 = links.length + 2 := by
    rw [List.length_append, List.length_singleton]
  refine ⟨⟨by omega, by omega, fun more hle hlt => ?_⟩, fun other hother => ?_⟩
  · rw [Nat.le_antisymm (hlength ▸ hlt) hle]
    exact hlast
  · by_contra hnot
    have hselected := hother.2.2 (links.length + 1) (by omega) (by omega)
    exact hbefore ((selectedAt_append_iff (Nat.le_refl _)).1 hselected)

/-! ## Sorted selections -/

/-- In a list without repetitions places increase. -/
theorem pairwise_idxOf_of_nodup (h : rows.Nodup) :
    rows.Pairwise fun a b => rows.idxOf a < rows.idxOf b := by
  rw [List.pairwise_iff_getElem]
  intro i j hi hj hij
  rwa [List.Nodup.idxOf_getElem h i hi, List.Nodup.idxOf_getElem h j hj]

/-- The rows of one list have one entry, and they stand as in the table. -/
theorem pairwise_precedes_of_sublist {part : List Row} {count : Nat} (hrows : rows.Nodup)
    (hsub : part.Sublist rows) (h : ∀ row ∈ part, IsEntry columns rows first links row count) :
    part.Pairwise (Precedes columns rows first links) := by
  have hplaces := (pairwise_idxOf_of_nodup hrows).sublist hsub
  exact hplaces.imp_of_mem fun ha hb hlt => ⟨count, count, h _ ha, h _ hb, .inr ⟨rfl, hlt⟩⟩

theorem arranged_singleton (hrows : rows.Nodup)
    (h : (chainOf first []).filterRows columns rows = .ok found) :
    Arranged columns rows first [] found := by
  have hentry : ∀ row ∈ found, IsEntry columns rows first [] row 1 := by
    intro row hrow
    refine ⟨⟨Nat.le_refl 1, Nat.le_refl 1, fun more hle hlt => ?_⟩, fun other hother => hother.1⟩
    rw [Nat.le_antisymm hlt hle]
    exact (selectedAt_length_iff h).2 hrow
  rcases select_leaf_eq_filter_iff.1 h with ⟨-, rfl⟩
  exact ⟨fun row hrow => ⟨1, hentry row hrow⟩,
    pairwise_precedes_of_sublist hrows List.filter_sublist hentry⟩

/-- The rows that are kept of those that were selected before. -/
theorem Arranged.keep {before kept : List Row} (h : Arranged columns rows first links before)
    (hsub : kept.Sublist before)
    (hlast : ∀ row ∈ kept,
      SelectedAt columns rows first (links ++ [next]) (links.length + 2) row) :
    Arranged columns rows first (links ++ [next]) kept := by
  refine ⟨fun row hrow => ?_, (h.precedes.sublist hsub).imp_of_mem ?_⟩
  · rcases h.entry row (hsub.subset hrow) with ⟨count, hcount⟩
    exact ⟨count, isEntry_append_of_mem (hlast row hrow) hcount⟩
  · rintro a b ha hb ⟨j, k, hj, hk, hlt⟩
    exact ⟨j, k, isEntry_append_of_mem (hlast a ha) hj, isEntry_append_of_mem (hlast b hb) hk, hlt⟩

/-- Rows that were not selected before, put behind those that were. -/
theorem Arranged.extend {before new : List Row} (h : Arranged columns rows first links before)
    (hrows : rows.Nodup) (hsub : new.Sublist rows)
    (hnew : ∀ row ∈ new, ¬ SelectedAt columns rows first links (links.length + 1) row)
    (hlast : ∀ row ∈ before ++ new,
      SelectedAt columns rows first (links ++ [next]) (links.length + 2) row) :
    Arranged columns rows first (links ++ [next]) (before ++ new) := by
  rw [List.forall_mem_append] at hlast
  have hentry : ∀ row ∈ new,
      IsEntry columns rows first (links ++ [next]) row (links.length + 2) := fun row hrow =>
    isEntry_append_of_not_mem (hnew row hrow) (hlast.2 row hrow)
  -- The rows from before keep their entries, and all of these are earlier than the new link.
  have hkept := h.keep (List.Sublist.refl before) hlast.1
  refine ⟨List.forall_mem_append.2 ⟨hkept.entry, fun row hrow => ⟨_, hentry row hrow⟩⟩,
    List.pairwise_append.2 ⟨hkept.precedes,
      pairwise_precedes_of_sublist hrows hsub hentry, fun a ha b hb => ?_⟩⟩
  rcases h.entry a ha with ⟨count, hcount⟩
  have hle : count ≤ links.length + 1 := hcount.1.2.1
  exact ⟨count, _, isEntry_append_of_mem (hlast.1 a ha) hcount, hentry b hb, .inl (by omega)⟩

theorem arranged_chainOf (hids : (rows.map Row.id).Nodup)
    (h : (chainOf first links).filterRows columns rows = .ok found) :
    Arranged columns rows first links found := by
  have hrows : rows.Nodup := List.Nodup.of_map Row.id hids
  -- The state of the selection is the chain so far, so the induction adds the last comparison.
  induction links using List.reverseRecOn generalizing found with
  | nil => exact arranged_singleton hrows h
  | append_singleton links next ih =>
      have hlast : ∀ row ∈ found,
          SelectedAt columns rows first (links ++ [next]) (links.length + 2) row := by
        intro row hrow
        have hselected := (selectedAt_length_iff h).2 hrow
        rwa [List.length_append, List.length_singleton] at hselected
      rw [chainOf_append_singleton] at h
      rcases next with ⟨joint, l⟩
      cases joint with
      | and =>
          rcases (select_link_and hids).1 h with ⟨before, hbefore, -, rfl⟩
          exact (ih hbefore).keep List.filter_sublist hlast
      | or =>
          rcases (select_link_or hids).1 h with ⟨before, hbefore, -, rfl⟩
          refine (ih hbefore).extend hrows List.filter_sublist ?_ hlast
          -- A row that comes in has an id that no row had before.
          intro row hrow hselected
          have hmem := (List.mem_filter.1 hrow).2
          rw [Bool.and_eq_true, List.contains_iff_mem.2 (List.mem_map_of_mem
            ((selectedAt_length_iff hbefore).1 hselected))] at hmem
          exact absurd hmem.2 Bool.false_ne_true

/-! ## Conditions of texts -/

theorem exists_filterRows_chainUpTo
    (h : (chainOf first links).filterRows columns rows = .ok found) (count : Nat) :
    ∃ upTo, (chainUpTo first links count).filterRows columns rows = .ok upTo := by
  have hsplit : chainOf first links =
      (links.drop (count - 1)).foldl link (chainUpTo first links count) := by
    rw [chainUpTo, chainOf, chainOf, ← List.foldl_append, List.take_append_drop]
  rw [hsplit] at h
  exact exists_select_of_foldl_link _ h

/-- Where all conjunctions are "and", the table is only filtered. -/
theorem sublist_of_forall_and (hids : (rows.map Row.id).Nodup)
    (h : (chainOf first links).filterRows columns rows = .ok found)
    (hand : ∀ next ∈ links, next.1 = .and) : found.Sublist rows := by
  rcases (select_foldl_link_and_iff hids hand).1 h with ⟨before, hbefore, -, rfl⟩
  rcases select_leaf_eq_filter_iff.1 hbefore with ⟨-, rfl⟩
  exact List.filter_sublist.trans List.filter_sublist

/-- A condition that was read is a chain of comparisons. If it selects rows of distinct ids, so does
every beginning of it. Each selected row has an entry, and the rows are sorted by their entries and
then by their places in the table. So a chain of Ands leaves them in the order of the table, and a
row that was dropped stands where the comparison puts it from which on it is selected again. -/
theorem filterRows_sorted_by_entry {text : String} {condition : Condition}
    (hparse : parse text = .ok condition) (hids : (rows.map Row.id).Nodup)
    (h : condition.filterRows columns rows = .ok found) :
    ∃ first links, condition = chainOf first links ∧
      (∀ count, ∃ upTo, (chainUpTo first links count).filterRows columns rows = .ok upTo) ∧
      (∀ row ∈ found, ∃ count, IsEntry columns rows first links row count) ∧
      found.Pairwise (Precedes columns rows first links) ∧
      ((∀ next ∈ links, next.1 = .and) → found.Sublist rows) ∧
      ∀ row count, StaysFrom columns rows first links row (count + 1) →
        ¬ SelectedAt columns rows first links count row →
        IsEntry columns rows first links row (count + 1) := by
  -- A condition that was read is a chain, and of chains the order is known.
  rcases parse_eq_ok_iff.1 hparse with ⟨located, -, htokens⟩
  rcases ofTokens_eq_ok_iff.1 htokens with ⟨first, links, -, rfl⟩
  have harranged := arranged_chainOf hids h
  refine ⟨first, links, rfl, exists_filterRows_chainUpTo h, harranged.entry, harranged.precedes,
    sublist_of_forall_and hids h, ?_⟩
  intro row count hstays hdropped
  refine ⟨hstays, fun other hother => ?_⟩
  -- An earlier entry would have kept the row in at the prefix where it was dropped.
  by_contra hlt
  have hle := hstays.2.1
  exact hdropped (hother.2.2 count (by omega) (by omega))

/-- The first row is dropped by the second comparison and comes in again with the third. -/
theorem filterRows_sorted_by_entry_readmitted :
    let columns : List Column := [⟨"0000", "N", .text, none⟩]
    let text := "N like %a% and N != ab or N = ab"
    let condition : Condition :=
      .merge .or (.merge .and (.leaf ⟨"N", .like, "%a%"⟩) (.leaf ⟨"N", .unequal, "ab"⟩))
        (.leaf ⟨"N", .equal, "ab"⟩)
    let dropped : Row := ⟨[("N", .string "ab"), ("_id", .string "r1")]⟩
    let kept : Row := ⟨[("N", .string "ca"), ("_id", .string "r2")]⟩
    let rows : List Row := [dropped, kept, ⟨[("N", .string "x"), ("_id", .string "r3")]⟩]
    parse text = .ok condition ∧ (rows.map Row.id).Nodup ∧
      condition.filterRows columns rows = .ok [kept, dropped] ∧
      ∃ first links, condition = chainOf first links ∧
        (∀ row ∈ [kept, dropped], ∃ count, IsEntry columns rows first links row count) ∧
        [kept, dropped].Pairwise (Precedes columns rows first links) := by
  intro columns text condition dropped kept rows
  have hparse : parse text = .ok condition := by decide +kernel
  have hids : (rows.map Row.id).Nodup := by decide
  have hfound : condition.filterRows columns rows = .ok [kept, dropped] := by decide
  rcases filterRows_sorted_by_entry hparse hids hfound with
    ⟨first, links, hchain, -, hentries, hsorted, -⟩
  exact ⟨hparse, hids, hfound, first, links, hchain, hentries, hsorted⟩

end Condition

end GridQuery
