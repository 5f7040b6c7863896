import GridQuery.Proofs.ChainSelection
import GridQuery.Proofs.JoinedTexts
import GridQuery.Table.Selection

/-!
# Narrowing Twice

Narrowing a selection by one condition text and then by another, against narrowing it once by both
texts with "and" between them.

The joined text is one chain, in which the comparisons of the second text stand after those of the
first. If they are all joined by "and", they filter what the first text selects. The second step
filters the same rows, and only the reason is another: it sees no others, as the selection it starts
from has no others. The first text may join its comparisons as it likes, for nothing of it is
grouped anew.

A second text with an "or" in it would take rows in again that the first one left out. That is why
the two sides of the law are not alike.

## Main definitions

* `Condition.OnlyAnd`: All conjunctions of a condition are "and".

## Theorems

* `Condition.onlyAnd_chainOf_iff`: Chains of Ands.
* `Selection.narrow_eq_ok_iff`: What narrowing by a text that can be read does.
* `Condition.select_select_of_foldl_link`: A chain of Ands on the selected entries alone.
* `Selection.narrow_narrow_of_narrow_and`: Two steps for one.
-/

namespace GridQuery

namespace Condition

/-- All conjunctions of the condition are "and". -/
def OnlyAnd : Condition → Prop
  | .leaf _ => True
  | .merge joint left right => joint = .and ∧ left.OnlyAnd ∧ right.OnlyAnd

theorem onlyAnd_link_iff {left : Condition} {next : Conjunction × Leaf} :
    (left.link next).OnlyAnd ↔ left.OnlyAnd ∧ next.1 = .and := by
  rw [link, OnlyAnd]
  simp only [OnlyAnd, and_true]
  exact and_comm

theorem onlyAnd_foldl_link_iff {left : Condition} {links : List (Conjunction × Leaf)} :
    (links.foldl link left).OnlyAnd ↔ left.OnlyAnd ∧ ∀ next ∈ links, next.1 = .and := by
  induction links generalizing left with
  | nil => simp only [List.foldl_nil, List.not_mem_nil, false_implies, implies_true, and_true]
  | cons next links ih =>
      rw [List.foldl_cons, ih, onlyAnd_link_iff, List.forall_mem_cons, and_assoc]

theorem onlyAnd_chainOf_iff {first : Leaf} {links : List (Conjunction × Leaf)} :
    (chainOf first links).OnlyAnd ↔ ∀ next ∈ links, next.1 = .and := by
  rw [chainOf, onlyAnd_foldl_link_iff]
  exact and_iff_right trivial

variable {α : Type} {row : α → Row} {columns : List Column} {entries found : List α}

/-- What a chain of Ands adds to a condition may be selected from what the condition selects. -/
theorem select_select_of_foldl_link {left : Condition} {first : Leaf}
    {links : List (Conjunction × Leaf)} (hids : (entries.map fun a => (row a).id).Nodup)
    (hand : ∀ next ∈ links, next.1 = .and)
    (h : select row columns (links.foldl link (left.link (.and, first))) entries = .ok found) :
    ∃ kept, select row columns left entries = .ok kept ∧
      select row columns (chainOf first links) kept = .ok found := by
  rcases (select_foldl_link_and_iff hids hand).1 h with ⟨both, hboth, hlinks, rfl⟩
  rcases (select_link_and hids).1 hboth with ⟨kept, hkept, hfirst, rfl⟩
  have hsub : kept ⊆ entries := select_subset hkept
  have hdistinct := nodup_map_select hkept hids
  -- A comparison that can be put to all entries can be put to the selected ones.
  refine ⟨kept, hkept, (select_foldl_link_and_iff hdistinct hand).2 ⟨_, ?_, ?_, rfl⟩⟩
  · exact select_leaf_eq_filter_iff.2 ⟨hfirst.mono hsub, rfl⟩
  · exact fun next hnext => (hlinks next hnext).mono hsub

end Condition

namespace Selection

variable {s joined : Selection} {a b : String}

/-- Narrowing by a text that can be read selects with the condition of the text. -/
theorem narrow_eq_ok_iff {text : String} {condition : Condition}
    (hparse : Condition.parse text = .ok condition) {narrowed : Selection} :
    s.narrow text = .ok narrowed ↔
      ∃ rows, condition.filterRows s.columns s.rows = .ok rows ∧
        narrowed = ⟨s.tableName, s.columns, rows, text⟩ := by
  rw [narrow, make, matching, if_neg (Condition.not_isEmpty_trim_of_parse hparse), hparse,
    map_eq_ok_iff]
  exact exists_congr fun rows => and_congr_right fun _ => eq_comm

/-- If a selection of rows with distinct ids can be narrowed by two texts with "and" between them,
and the second has no other conjunction, then it can be narrowed by the first and what comes of it
by the second, and the rows are the same in the same order. -/
theorem narrow_narrow_of_narrow_and {left right : Condition} (hids : s.ids.Nodup)
    (ha : Condition.parse a = .ok left) (hb : Condition.parse b = .ok right)
    (hand : right.OnlyAnd) (h : s.narrow (a ++ " and " ++ b) = .ok joined) :
    ∃ first second, s.narrow a = .ok first ∧ first.narrow b = .ok second ∧
      second.rows = joined.rows := by
  rcases Condition.parse_append_and ha hb with ⟨leaf, links, rfl, hjoined⟩
  rcases (narrow_eq_ok_iff hjoined).1 h with ⟨rows, hrows, rfl⟩
  -- The links of the second text only take rows away, so they can be asked of what the first one
  -- keeps.
  rw [Condition.onlyAnd_chainOf_iff] at hand
  rcases Condition.select_select_of_foldl_link hids hand hrows with ⟨kept, hkept, hagain⟩
  refine ⟨_, ⟨s.tableName, s.columns, rows, b⟩, (narrow_eq_ok_iff ha).2 ⟨kept, hkept, rfl⟩, ?_,
    rfl⟩
  exact (narrow_eq_ok_iff hb).2 ⟨rows, hagain, rfl⟩

/-- The first text puts the first row behind the second one, and the second text leaves it there. -/
theorem narrow_narrow_of_narrow_and_readmitted :
    let columns : List Column := [⟨"0000", "N", .text, none⟩]
    let dropped : Row := ⟨[("N", .string "ab"), ("_id", .string "r1")]⟩
    let kept : Row := ⟨[("N", .string "ca"), ("_id", .string "r2")]⟩
    let s : Selection :=
      ⟨"T", columns, [dropped, kept, ⟨[("N", .string "x"), ("_id", .string "r3")]⟩], ""⟩
    s.ids.Nodup ∧ (Condition.OnlyAnd (.leaf ⟨"N", .like, "%a%"⟩)) ∧
      ∃ joined first second,
        s.narrow ("N = ca or N = ab" ++ " and " ++ "N like %a%") = .ok joined ∧
        s.narrow "N = ca or N = ab" = .ok first ∧ first.narrow "N like %a%" = .ok second ∧
        second.rows = joined.rows := by
  intro columns dropped kept s
  have hids : s.ids.Nodup := by decide
  have ha : Condition.parse "N = ca or N = ab" =
      .ok (.merge .or (.leaf ⟨"N", .equal, "ca"⟩) (.leaf ⟨"N", .equal, "ab"⟩)) := by decide +kernel
  have hb : Condition.parse "N like %a%" = .ok (.leaf ⟨"N", .like, "%a%"⟩) := by decide +kernel
  have hjoined : s.narrow ("N = ca or N = ab" ++ " and " ++ "N like %a%") =
      .ok ⟨"T", columns, [kept, dropped], "N = ca or N = ab and N like %a%"⟩ := by decide +kernel
  rcases narrow_narrow_of_narrow_and hids ha hb trivial hjoined with
    ⟨first, second, hfirst, hsecond, hrows⟩
  exact ⟨hids, trivial, _, first, second, hjoined, hfirst, hsecond, hrows⟩

end Selection

end GridQuery
