import GridQuery.Proofs.History

/-!
# The Identity of Rows

Rows are known by their ids, and every write and every merge relies on no two rows of a table or of
a selection having the same one. What selections do keeps it so, with one exception: an update
writes what its patch says, and a patch may say something of the id key. All rows that it reaches
then have one id, and writes that come later meet the first of them only.

So an update that writes an id has to go to a single row, and the id has to be free in its table.
Under this rule, and with no rule on any other action, the ids stay distinct through every run.

## Main definitions

* `Row.writtenId`: The id that a patch leaves to a row.
* `Session.Permits`: The actions that keep ids distinct.
* `Session.PermitsAll`: The same of actions in a row, each where it is performed.

## Theorems

* `Row.id_patch_of_not_keepsId`: A patch that writes an id writes the same one to all rows.
* `Store.distinct_updateRow`: A row may be given a free id.
* `Session.sound_update`, `Session.sound_perform`: What one action keeps.
* `Session.sound_run`: What a run keeps.
* `Session.nodup_ids_run`: Ids stay distinct from a list of tables on.
* `Session.not_nodup_ids_run`: They do not, if a patch writes one id to two rows.
-/

namespace GridQuery

namespace Row

/-- The id that a patch leaves to a row, if it writes one. -/
def writtenId (written : Fields) : String := ((⟨[]⟩ : Row).patch written).id

theorem id_patch_of_not_keepsId {written : Fields} (h : ¬KeepsId written) (row : Row) :
    (row.patch written).id = writtenId written := by
  -- The last value that the patch gives the id key covers whatever was there.
  have hsome : (written.reverse.lookup idKey).isSome = true := by
    rw [Option.isSome_iff_ne_none, ne_eq, List.lookup_eq_none_iff]
    rintro hnone
    refine h fun hmem => ?_
    rcases List.mem_map.mp hmem with ⟨field, hfield, hkey⟩
    exact bne_iff_ne.mp (hnone field (List.mem_reverse.mpr hfield)) hkey.symm
  rw [writtenId, id, id, cell?_patch, cell?_patch, Option.or_of_isSome hsome,
    Option.or_of_isSome hsome]

end Row

/-- One row may be given another id that no other row of its table has. -/
theorem Store.distinct_updateRow {store store' : Store} (hd : store.Distinct) {name id : String}
    {patch : Fields} (hwrites : ¬Row.KeepsId patch)
    (hfree : Row.writtenId patch ∈ store.ids name → Row.writtenId patch = id)
    (h : store.updateRow name id patch = .ok store') : store'.Distinct := by
  intro other
  have hold := hd other
  rw [ids, table?_updateRow (hd name) h]
  rw [ids] at hold
  cases hother : store.table? other with
  | none => exact List.nodup_nil
  | some t =>
      rw [hother] at hold
      rw [Option.map_some, Option.map_some, Option.getD_some, onTable]
      by_cases hname : t.name = name
      · have hids : store.ids name = t.ids := by
          rw [← hname, name_of_table? hother, ids_of_table? hother]
        rw [hids] at hfree
        -- The ids are mapped, and only the written one could be met twice.
        have hmap : (t.patchRows [id] patch).ids =
            t.ids.map fun i => if i = id then Row.writtenId patch else i := by
          rw [Table.ids, Table.patchRows, Table.ids, List.map_map, List.map_map]
          refine List.map_congr_left fun row _ => ?_
          simp only [Function.comp_apply, Row.patchIf, List.mem_singleton]
          split
          · exact Row.id_patch_of_not_keepsId hwrites row
          · rfl
        rw [if_pos hname, hmap]
        refine List.Nodup.map_on ?_ hold
        intro i hi j hj heq
        by_cases hii : i = id
        · by_cases hjj : j = id
          · rw [hii, hjj]
          · rw [if_pos hii, if_neg hjj] at heq
            exact absurd (heq.symm.trans (hfree (heq ▸ hj))) hjj
        · by_cases hjj : j = id
          · rw [if_neg hii, if_pos hjj] at heq
            exact absurd (heq.trans (hfree (heq ▸ hi))) hii
          · rwa [if_neg hii, if_neg hjj] at heq
      · rw [if_neg hname]
        exact hold

namespace Session

/-- The action makes or deletes selections, or it is an update through one that writes no id, or
gives a single row an id that no other row of its table has. -/
def Permits (session : Session) : Action → Prop
  | .select .. | .narrow .. | .copy .. | .delete _ => True
  | .update source patch => Row.KeepsId patch ∨ ∀ s, session.selection? source = some s →
    s.rows.length ≤ 1 ∧ ∀ row ∈ s.rows,
      Row.writtenId patch ∈ session.store.ids s.tableName → Row.writtenId patch = row.id
  | _ => False

/-- Each of the actions is permitted in the session that those before it have left. -/
def PermitsAll (session : Session) : List Action → Prop
  | [] => True
  | action :: rest => session.Permits action ∧ (session.perform action).1.PermitsAll rest

theorem sound_keep {session : Session} (hsound : session.Sound) {store : Store}
    (hstore : store.Distinct) (name : String) {s : Selection} (hs : s.ids.Nodup) :
    ({ session with store }.keep name s).Sound := by
  refine ⟨hstore, fun other kept hkept => ?_⟩
  rw [selection?_keep] at hkept
  split at hkept
  · exact Option.some.inj hkept ▸ hs
  · exact hsound.selections other kept hkept

theorem sound_update {session : Session} (hsound : session.Sound) {source : String}
    {patch : Fields} (hwrites : ¬Row.KeepsId patch)
    (h : session.Permits (.update source patch)) :
    (session.perform (.update source patch)).1.Sound := by
  simp only [perform, withSelection]
  cases hsource : session.selection? source with
  | none => exact hsound
  | some s =>
      rcases h.resolve_left hwrites s hsource with ⟨hlength, hfree⟩
      have hs := hsound.selections source s hsource
      simp only [Selection.update]
      -- No row is written, or one, and then the store has refused it or has it under its new id.
      rcases hrows : s.rows with _ | ⟨row, rest⟩
      · exact sound_keep hsound hsound.tables source List.nodup_nil
      · rw [hrows, List.length_cons, Nat.succ_le_succ_iff, Nat.le_zero,
          List.length_eq_zero_iff] at hlength
        subst hlength
        rw [hrows] at hfree
        have hown := hfree row List.mem_cons_self
        simp only [Selection.updateRows]
        cases hupdate : session.store.updateRow s.tableName row.id patch with
        | error e => exact sound_keep hsound hsound.tables source (List.nodup_singleton _)
        | ok store =>
            exact sound_keep hsound (Store.distinct_updateRow hsound.tables hwrites hown hupdate)
              source (List.nodup_singleton _)

/-- A permitted action keeps the ids of every table and of every selection distinct. -/
theorem sound_perform {session : Session} (hsound : session.Sound) {action : Action}
    (h : session.Permits action) : (session.perform action).1.Sound := by
  by_cases hthrough : action.ThroughSelections
  · exact sound_of_step hsound (session.step_perform hthrough)
  · cases action with
    | update source patch => exact sound_update hsound hthrough h
    | select | narrow | copy | delete => exact absurd trivial hthrough
    | drop | insertTable | updateRow | deleteRows => exact h.elim

theorem sound_run {session : Session} (hsound : session.Sound) {actions : List Action}
    (h : session.PermitsAll actions) : (session.run actions).Sound := by
  induction actions generalizing session with
  | nil => exact hsound
  | cons action rest ih => exact ih (sound_perform hsound h.1) h.2

/-- From tables with distinct ids on, the ids in every table and in every selection stay distinct
through every run in which no update writes an id, but to a single row and a free one. -/
theorem nodup_ids_run {tables : List Table} {actions : List Action}
    (hids : ∀ t ∈ tables, t.ids.Nodup) (h : (ofTables tables).PermitsAll actions) :
    (∀ name, (((ofTables tables).run actions).store.ids name).Nodup) ∧
      ∀ name s, ((ofTables tables).run actions).selection? name = some s → s.ids.Nodup := by
  have hsound := sound_run (sound_ofTables hids) h
  exact ⟨hsound.tables, hsound.selections⟩

/-- A row is given a free id through one selection, and the other still has it under the old one. -/
theorem nodup_ids_run_renamed :
    let columns : List Column := [⟨"0000", "Name", .text, none⟩]
    let rows : List Row :=
      [⟨[("Name", .string "apple"), ("_id", .string "r1")]⟩, ⟨[("_id", .string "r2")]⟩]
    let tables : List Table := [⟨"Fruit", columns, rows⟩]
    let actions : List Action :=
      [.select "Fruit" "" "all", .narrow "all" "Name = apple" "one",
        .update "one" [("_id", .string "r3")], .update "all" [("Name", .null)]]
    (∀ t ∈ tables, t.ids.Nodup) ∧ (ofTables tables).PermitsAll actions ∧
      ((ofTables tables).run actions).store.ids "Fruit" = ["r3", "r2"] ∧
      (((ofTables tables).run actions).store.ids "Fruit").Nodup := by
  intro columns rows tables actions
  have hids : ∀ t ∈ tables, t.ids.Nodup := by decide
  have hpermits : (ofTables tables).PermitsAll actions := by
    refine ⟨trivial, trivial, .inr fun s hs => ?_, .inl (by decide), trivial⟩
    have hone : ((((ofTables tables).perform (.select "Fruit" "" "all")).1.perform
        (.narrow "all" "Name = apple" "one")).1.selection? "one") =
          some ⟨"Fruit", columns, rows.take 1, "Name = apple"⟩ := by
      decide +kernel
    rw [hone] at hs
    rw [← Option.some.inj hs]
    decide +kernel
  have hrun : ((ofTables tables).run actions).store.ids "Fruit" = ["r3", "r2"] := by
    decide +kernel
  exact ⟨hids, hpermits, hrun, (nodup_ids_run hids hpermits).1 "Fruit"⟩

/-- A patch that writes an id to two rows leaves two rows with it, in the selection and in the
table. -/
theorem not_nodup_ids_run :
    let tables : List Table :=
      [⟨"Fruit", [], [⟨[("_id", .string "r1")]⟩, ⟨[("_id", .string "r2")]⟩]⟩]
    let actions : List Action :=
      [.select "Fruit" "" "all", .update "all" [("_id", .string "x")]]
    (∀ t ∈ tables, t.ids.Nodup) ∧
      ¬(((ofTables tables).run actions).store.ids "Fruit").Nodup ∧
      ∃ s, ((ofTables tables).run actions).selection? "all" = some s ∧ ¬s.ids.Nodup := by
  intro tables actions
  exact ⟨by decide, by decide,
    ⟨"Fruit", [], [⟨[("_id", .string "x")]⟩, ⟨[("_id", .string "x")]⟩], ""⟩, by decide, by decide⟩

end Session

end GridQuery
