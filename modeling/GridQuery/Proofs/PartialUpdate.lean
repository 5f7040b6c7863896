import GridQuery.Proofs.History

/-!
# Updates that Stop Halfway

How far an update of a selection gets, and what it leaves behind.

An update writes every row twice, in the table and in the selection, one row after the other, and it
ends with the first row that its table lacks. A selection is a copy, so this may happen at any row:
others may have deleted the row, or put in another table under the name, or the table may be gone.
What has been written by then stays.

So there is one number, the index of the first row that is lacking, that says all about an update:
the rows before it are patched on both sides, and nothing else is changed on either. It is known
before the update starts, because a patch that writes no id leaves the rows of the table where they
can be found. Where rows share an id it would not be: two rows of a selection may then stand for one
row of the table. Only this table and this selection have to be free of that.

## Main definitions

* `Selection.reach`: The index of the first row that the table lacks.

## Theorems

* `Selection.reached_eq_take`: The ids up to there.
* `Selection.map_patchIf_take`: Patching by ids is patching the first rows.
* `Selection.reach_lt_length_iff`: When an update does not reach all rows.
* `Session.perform_update_prefix`: What an update does to a session.
-/

namespace GridQuery

namespace Selection

/-- The index of the first row of a selection that its table lacks, or the number of its rows. -/
def reach (s : Selection) (store : Store) : Nat :=
  s.rows.findIdx fun row => !(store.ids s.tableName).contains row.id

theorem reached_eq_take (s : Selection) (store : Store) :
    store.reached s = s.ids.take (s.reach store) := by
  rw [Store.reached, List.takeWhile_eq_take_findIdx_not, ids, List.findIdx_map]
  rfl

/-- If the ids are distinct, patching the rows with the first ids is patching the first rows. -/
theorem map_patchIf_take {rows : List Row} (hids : (rows.map Row.id).Nodup) (count : Nat)
    (patch : Fields) :
    rows.map (Row.patchIf ((rows.map Row.id).take count) patch) =
      ((rows.take count).map fun row => row.patch patch) ++ rows.drop count := by
  induction rows generalizing count with
  | nil => rw [List.map_nil, List.take_nil, List.drop_nil, List.map_nil, List.append_nil]
  | cons row rest ih =>
      rw [List.map_cons, List.nodup_cons] at hids
      -- No id is the first of the others, so the rest is patched by the rest of the ids.
      cases count with
      | zero =>
          rw [List.take_zero, Row.map_patchIf_of_not_mem fun _ _ => List.not_mem_nil]
          rfl
      | succ count =>
          have hfirst : ((row :: rest).map Row.id).take (count + 1) =
              row.id :: (rest.map Row.id).take count := rfl
          rw [hfirst, Row.map_patchIf_cons hids.1, ih hids.2]
          rfl

/-- An update gets past no row if there is no table, and otherwise past no row that is not in it. -/
theorem reach_lt_length_iff (s : Selection) (store : Store) :
    s.reach store < s.rows.length ↔
      store.table? s.tableName = none ∧ s.rows ≠ [] ∨
        ∃ row ∈ s.rows, row.id ∉ store.ids s.tableName := by
  -- The writes end early where they meet a row whose id the table does not have.
  simp only [reach, List.findIdx_lt_length, Bool.not_eq_true', Bool.eq_false_iff, ne_eq,
    List.contains_iff_mem]
  refine ⟨.inr, ?_⟩
  rintro (⟨hnone, hrows⟩ | hlacks)
  · -- A table that is not there has no ids.
    rcases List.exists_mem_of_ne_nil s.rows hrows with ⟨row, hrow⟩
    refine ⟨row, hrow, fun hmem => ?_⟩
    rw [Store.ids, hnone] at hmem
    exact List.not_mem_nil hmem
  · exact hlacks

end Selection

namespace Session

/-- An update through a selection that does not write ids, where neither the selection nor its table
has two rows of one id. It fails if and only if there is no table but a row, or a row whose id is
not in the table, and the error is that of the first such row. The rows before it, or all rows if it
does not fail, are patched in the selection and in the table. All other rows of both are as they
were and where they were, and so are the other tables and the other selections. What is answered are
the rows of the selection. -/
theorem perform_update_prefix {session : Session} {source : String} {s : Selection}
    {patch : Fields} (hs : session.selection? source = some s) (hk : Row.KeepsId patch)
    (hids : s.ids.Nodup) (hd : (session.store.ids s.tableName).Nodup) :
    let count := s.reach session.store
    let updated : Selection :=
      { s with rows := ((s.rows.take count).map fun row => row.patch patch) ++ s.rows.drop count }
    ∃ (after : Session) (error : Option QueryError),
      session.perform (.update source patch) = (after, .updated updated.rows error) ∧
      (error ≠ none ↔ session.store.table? s.tableName = none ∧ s.rows ≠ [] ∨
        ∃ row ∈ s.rows, row.id ∉ session.store.ids s.tableName) ∧
      (error = s.rows[count]?.map fun row => session.store.refusal s.tableName row.id) ∧
      (error = none ↔ count = s.rows.length) ∧
      (∀ name, after.selection? name =
        if name = source then some updated else session.selection? name) ∧
      (after.store.table? s.tableName = (session.store.table? s.tableName).map
        (Table.patchRows (s.ids.take count) patch)) ∧
      ∀ name, name ≠ s.tableName → after.store.table? name = session.store.table? name := by
  intro count updated
  rcases hupdate : Selection.updateRows session.store s.tableName patch s.rows with
    ⟨store, rows, error⟩
  rcases Selection.updateRows_eq_patched hk hd hids hupdate
    (s.reached_eq_take session.store).symm with ⟨htables, hrows, herror⟩
  have hupdated : ({ s with rows } : Selection) = updated := by
    rw [hrows]
    exact congrArg (fun rows => { s with rows }) (Selection.map_patchIf_take hids count patch)
  -- The error is that of the row at the index, so there is none if the index is behind the rows.
  rw [List.find?_eq_getElem?_findIdx] at herror
  have hnone : error = none ↔ count = s.rows.length := by
    rw [herror, Option.map_eq_none_iff, List.getElem?_eq_none_iff]
    exact ⟨fun hle => Nat.le_antisymm List.findIdx_le_length hle, fun heq => Nat.le_of_eq heq.symm⟩
  refine ⟨({ session with store }.keep source updated), error, ?_, ?_, herror, hnone, ?_, ?_, ?_⟩
  · rw [perform, withSelection, hs]
    simp only [Selection.update, hupdate, hupdated]
  · rw [ne_eq, hnone, ← Selection.reach_lt_length_iff]
    exact ⟨fun hne => Nat.lt_of_le_of_ne List.findIdx_le_length hne, Nat.ne_of_lt⟩
  · exact fun name => selection?_keep _ source updated name
  · exact (htables s.tableName).trans (Store.map_onTable_self _ _ _)
  · exact fun name hname => (htables name).trans (Store.map_onTable_of_ne _ hname _)

/-- The table has lost the second row since and has the others in another order, the first of them
with another cell. -/
theorem perform_update_prefix_stale :
    let named (name id : String) : Row := ⟨[("Name", .string name), ("_id", .string id)]⟩
    let s : Selection := ⟨"Fruit", [], [named "a" "r1", named "b" "r2", named "c" "r3"], ""⟩
    let session : Session :=
      ⟨⟨[⟨"Fruit", [], [named "c" "r3", named "x" "r1"]⟩, ⟨"Other", [], [named "y" "r1"]⟩]⟩,
        [("all", s)]⟩
    let patch : Fields := [("Name", .string "z")]
    session.selection? "all" = some s ∧ Row.KeepsId patch ∧ s.ids.Nodup ∧
      (session.store.ids "Fruit").Nodup ∧ s.reach session.store = 1 ∧
      ∃ after, session.perform (.update "all" patch) =
          (after, .updated [named "z" "r1", named "b" "r2", named "c" "r3"]
            (some (.dataSource (.noRow "r2")))) ∧
        after.store.table? "Fruit" = some ⟨"Fruit", [], [named "c" "r3", named "z" "r1"]⟩ ∧
        after.store.table? "Other" = some ⟨"Other", [], [named "y" "r1"]⟩ := by
  intro named s session patch
  have hs : session.selection? "all" = some s := rfl
  have hk : Row.KeepsId patch := by decide
  have hids : s.ids.Nodup := by decide
  have hd : (session.store.ids "Fruit").Nodup := by decide
  rcases perform_update_prefix hs hk hids hd with
    ⟨after, error, hperform, -, rfl, -, -, htable, hothers⟩
  refine ⟨hs, hk, hids, hd, by decide, after,
    hperform.trans (congrArg (Prod.mk after) ?_), ?_, ?_⟩
  · decide
  · exact htable.trans (by decide)
  · exact (hothers "Other" (by decide)).trans (by decide)

end Session

end GridQuery
