import GridQuery.Table.Selection
import Mathlib.Data.List.Nodup

/-!
# Writes to Tables

What a write does to the rows of a table, as an equation on the whole list of rows.

A store looks for the row of an update by its id and patches the first that it meets, and an update
of a selection does so for one row after another until the store fails to find one. Both are walks.
If the ids of a table are distinct the walk of the store can be forgotten: an update is then a map
over the rows, which patches the row with the id and leaves the others as they are. If the ids of a
selection are distinct too, so can the walk of the selection: the rows that it reaches are known
before it starts, since a patch without the id key changes no id and so never changes which rows
are there.

`Store.reached` says which rows these are, and `updateRows_eq_patched` that the update patches
exactly them, in the table and in the selection.

## Main definitions

* `Row.KeepsId`: A patch that does not write the id.
* `Row.patchIf`: A row, patched if its id is one of a list.
* `Table.patchRows`: A table, patched at the rows with one of a list of ids.
* `Store.ids`, `Store.Distinct`: The ids of the rows of a table, and that they are distinct.
* `Store.reached`: The ids of a selection up to the first that its table lacks.
* `Store.refusal`: The error for that one.

## Theorems

* `Row.id_patchIf`: A patch that keeps the id changes no id.
* `Store.table?_updateRow`: An update of one row patches the rows of its table with that id.
* `Store.exists_updateRow_iff`: It succeeds where the table has a row with the id.
* `Store.table?_deleteRows`: A deletion is a filter on the rows of its table.
* `Selection.updateRows_eq_patched`: An update of a selection patches the rows that it reaches.
-/

namespace GridQuery

namespace Row

/-- The patch does not write the id. -/
def KeepsId (patch : Fields) : Prop := idKey ∉ patch.map Prod.fst

instance (patch : Fields) : Decidable (KeepsId patch) :=
  inferInstanceAs (Decidable (_ ∉ _))

/-- The row, patched if its id is one of the ids. -/
def patchIf (ids : List String) (patch : Fields) (row : Row) : Row :=
  if row.id ∈ ids then row.patch patch else row

theorem id_patch_of_keepsId {patch : Fields} (h : KeepsId patch) (row : Row) :
    (row.patch patch).id = row.id := by
  refine id_patch row patch ?_
  rw [List.lookup_eq_none_iff]
  intro field hfield
  rw [bne_iff_ne]
  rintro heq
  exact h (List.mem_map.mpr ⟨field, List.mem_reverse.mp hfield, heq.symm⟩)

theorem id_patchIf {patch : Fields} (h : KeepsId patch) (ids : List String) (row : Row) :
    (row.patchIf ids patch).id = row.id := by
  unfold patchIf
  split
  · exact id_patch_of_keepsId h row
  · rfl

theorem ids_map_patchIf {patch : Fields} (h : KeepsId patch) (ids : List String)
    (rows : List Row) : (rows.map (patchIf ids patch)).map id = rows.map id := by
  rw [List.map_map]
  exact List.map_congr_left fun row _ => id_patchIf h ids row

theorem map_patchIf_of_not_mem {ids : List String} {patch : Fields} {rows : List Row}
    (h : ∀ row ∈ rows, row.id ∉ ids) : rows.map (patchIf ids patch) = rows := by
  calc rows.map (patchIf ids patch) = rows.map (fun row => row) :=
        List.map_congr_left fun row hrow => if_neg (h row hrow)
    _ = rows := List.map_id' rows

/-- Patching one id and then others is patching all of them, the one being none of the others. -/
theorem patchIf_cons {patch : Fields} (h : KeepsId patch) {id : String} {ids : List String}
    (hid : id ∉ ids) (row : Row) :
    (row.patchIf [id] patch).patchIf ids patch = row.patchIf (id :: ids) patch := by
  by_cases hrow : row.id = id
  · -- Patched once, the row keeps its id, and the rest of the ids does not have it.
    have hone : row.patchIf [id] patch = row.patch patch :=
      if_pos (List.mem_singleton.mpr hrow)
    rw [hone, patchIf, id_patch_of_keepsId h, if_neg (hrow ▸ hid), patchIf,
      if_pos (hrow ▸ List.mem_cons_self)]
  · have hone : row.patchIf [id] patch = row :=
      if_neg (fun hmem => hrow (List.mem_singleton.mp hmem))
    rw [hone, patchIf, patchIf]
    simp only [List.mem_cons, hrow, false_or]

theorem map_patchIf_cons {row : Row} {rest : List Row} (hnew : row.id ∉ rest.map Row.id)
    (ids : List String) (patch : Fields) :
    (row :: rest).map (patchIf (row.id :: ids) patch) =
      row.patch patch :: rest.map (patchIf ids patch) := by
  rw [List.map_cons, patchIf, if_pos List.mem_cons_self]
  congr 1
  refine List.map_congr_left ?_
  intro other hother
  -- The first row is the only one with its id, so its patch is no one else's.
  have hne : other.id ≠ row.id := fun heq => hnew (heq ▸ List.mem_map_of_mem hother)
  simp only [patchIf, List.mem_cons, hne, false_or]

end Row

/-- The table, patched at the rows with one of the ids. -/
def Table.patchRows (ids : List String) (patch : Fields) (t : Table) : Table :=
  { t with rows := t.rows.map (Row.patchIf ids patch) }

/-- The table without the rows with one of the ids. -/
def Table.dropRows (ids : List String) (t : Table) : Table :=
  { t with rows := t.rows.filter fun row => !ids.contains row.id }

namespace Table

theorem patchRows_nil (patch : Fields) (t : Table) : t.patchRows [] patch = t := by
  rw [patchRows, Row.map_patchIf_of_not_mem fun _ _ => List.not_mem_nil]

theorem patchRows_cons {patch : Fields} (h : Row.KeepsId patch) {id : String} {ids : List String}
    (hid : id ∉ ids) (t : Table) :
    (t.patchRows [id] patch).patchRows ids patch = t.patchRows (id :: ids) patch := by
  simp only [patchRows, List.map_map]
  congr 1
  exact List.map_congr_left fun row _ => Row.patchIf_cons h hid row

theorem ids_patchRows {patch : Fields} (h : Row.KeepsId patch) (ids : List String) (t : Table) :
    (t.patchRows ids patch).ids = t.ids :=
  Row.ids_map_patchIf h ids t.rows

end Table

namespace Store

theorem name_of_table? {store : Store} {name : String} {t : Table}
    (h : store.table? name = some t) : t.name = name := by
  have hfound := List.find?_some h
  exact beq_iff_eq.mp hfound

/-- The ids of the rows of a table, none for a table that is not there. -/
def ids (store : Store) (name : String) : List String :=
  ((store.table? name).map Table.ids).getD []

theorem ids_of_table? {store : Store} {name : String} {t : Table}
    (h : store.table? name = some t) : store.ids name = t.ids := by
  rw [ids, h, Option.map_some, Option.getD_some]

/-- The ids of every table are distinct. -/
def Distinct (store : Store) : Prop := ∀ name, (store.ids name).Nodup

/-- The ids of a selection up to the first that its table lacks. -/
def reached (store : Store) (s : Selection) : List String :=
  s.ids.takeWhile fun id => (store.ids s.tableName).contains id

/-- What a store answers to an update of a row that it lacks. -/
def refusal (store : Store) (name id : String) : QueryError :=
  match store.table? name with
  | none => .dataSource (.noTable name)
  | some _ => .dataSource (.noRow id)

theorem patchFirst?_eq_of_nodup {id : String} {patch : Fields} {rows : List Row}
    (hids : (rows.map Row.id).Nodup) :
    patchFirst? id patch rows =
      if id ∈ rows.map Row.id then some (rows.map (Row.patchIf [id] patch)) else none := by
  induction rows with
  | nil => rfl
  | cons row rest ih =>
      rw [List.map_cons, List.nodup_cons] at hids
      rw [patchFirst?, List.map_cons, List.map_cons]
      by_cases hrow : row.id = id
      · -- No later row has this id, so the map leaves the rest alone.
        have hrest : rest.map (Row.patchIf [id] patch) = rest := by
          refine Row.map_patchIf_of_not_mem (fun other hother hmem => hids.1 ?_)
          rw [hrow, ← List.mem_singleton.mp hmem]
          exact List.mem_map_of_mem hother
        rw [if_pos hrow, if_pos (hrow ▸ List.mem_cons_self), hrest, Row.patchIf,
          if_pos (List.mem_singleton.mpr hrow)]
      · -- The id is another one, so the search goes on and the map leaves this row alone.
        have hhead : row.patchIf [id] patch = row :=
          if_neg (fun hmem => hrow (List.mem_singleton.mp hmem))
        have hmem : id ∈ row.id :: rest.map Row.id ↔ id ∈ rest.map Row.id := by
          rw [List.mem_cons]
          exact or_iff_right (fun heq => hrow heq.symm)
        rw [if_neg hrow, ih hids.2, hhead]
        by_cases hid : id ∈ rest.map Row.id
        · rw [if_pos hid, if_pos (hmem.mpr hid), Option.map_some]
        · rw [if_neg hid, if_neg (fun h => hid (hmem.mp h)), Option.map_none]

/-- Changes the table with a name. -/
def onTable (name : String) (f : Table → Table) (t : Table) : Table :=
  if t.name = name then f t else t

theorem onTable_onTable {name : String} {f g : Table → Table} {t : Table}
    (hf : (f t).name = t.name) : onTable name g (onTable name f t) = onTable name (g ∘ f) t := by
  by_cases hname : t.name = name
  · rw [onTable, onTable, onTable, if_pos hname, hf, if_pos hname, if_pos hname]
    rfl
  · rw [onTable, onTable, onTable, if_neg hname, if_neg hname, if_neg hname]

theorem map_onTable_patchRows_nil (name : String) (patch : Fields) (t : Option Table) :
    t = t.map (onTable name (Table.patchRows [] patch)) := by
  cases t with
  | none => rfl
  | some t =>
      rw [Option.map_some, onTable, Table.patchRows_nil, ite_self]

/-- A table that is found under the name is the one that is changed. -/
theorem map_onTable_self (store : Store) (name : String) (f : Table → Table) :
    (store.table? name).map (onTable name f) = (store.table? name).map f := by
  cases ht : store.table? name with
  | none => rfl
  | some t => rw [Option.map_some, Option.map_some, onTable, if_pos (name_of_table? ht)]

/-- A table that is found under another name is not. -/
theorem map_onTable_of_ne (store : Store) {name other : String} (h : other ≠ name)
    (f : Table → Table) : (store.table? other).map (onTable name f) = store.table? other := by
  cases ht : store.table? other with
  | none => rfl
  | some t =>
      have hname : t.name ≠ name := fun heq => h ((name_of_table? ht).symm.trans heq)
      rw [Option.map_some, onTable, if_neg hname]

theorem ids_onTable {f : Table → Table} (hf : ∀ t, (f t).ids = t.ids) (name : String)
    (t : Table) : (onTable name f t).ids = t.ids := by
  unfold onTable
  split
  · exact hf t
  · rfl

/-- Putting a changed table in the place of the one of its name changes that one only. -/
theorem table?_insert_of_table? {store : Store} {name : String} {t : Table} {f : Table → Table}
    (ht : store.table? name = some t) (hf : (f t).name = t.name) (other : String) :
    (store.insert (f t)).table? other = (store.table? other).map (onTable name f) := by
  -- A table is put back under its own name, where it is found again.
  rw [table?_insert, hf, name_of_table? ht]
  by_cases hother : other = name
  · rw [if_pos hother, hother, ht, Option.map_some, onTable, if_pos (name_of_table? ht)]
  · rw [if_neg hother]
    cases hu : store.table? other with
    | none => rfl
    | some u => rw [Option.map_some, onTable, name_of_table? hu, if_neg hother]

theorem updateRow_eq_of_nodup {store : Store} {name : String} (hd : (store.ids name).Nodup)
    (id : String) (patch : Fields) :
    store.updateRow name id patch =
      match store.table? name with
      | none => .error (.dataSource (.noTable name))
      | some t =>
        if id ∈ t.ids then .ok (store.insert (t.patchRows [id] patch))
        else .error (.dataSource (.noRow id)) := by
  rw [updateRow]
  cases ht : store.table? name with
  | none => rfl
  | some t =>
      have hids : t.ids.Nodup := ids_of_table? ht ▸ hd
      rw [Table.ids] at hids
      -- The first row with the id is the only one, and so a map does what the search does.
      simp only [patchFirst?_eq_of_nodup hids]
      by_cases hid : id ∈ t.ids
      · rw [if_pos hid, if_pos (show id ∈ t.rows.map Row.id from hid)]
        rfl
      · rw [if_neg hid, if_neg (show id ∉ t.rows.map Row.id from hid)]

theorem exists_updateRow_iff {store : Store} {name id : String} (hd : (store.ids name).Nodup)
    {patch : Fields} :
    (∃ store', store.updateRow name id patch = .ok store') ↔ id ∈ store.ids name := by
  rw [updateRow_eq_of_nodup hd]
  cases ht : store.table? name with
  | none =>
      rw [ids, ht]
      simp only [reduceCtorEq, exists_false, Option.map_none, Option.getD_none, List.not_mem_nil]
  | some t =>
      rw [ids_of_table? ht]
      dsimp only
      by_cases hid : id ∈ t.ids
      · exact iff_of_true ⟨_, if_pos hid⟩ hid
      · -- The row is missing, and that is an error.
        refine iff_of_false (fun ⟨_, h⟩ => ?_) hid
        rw [if_neg hid] at h
        exact absurd h (by simp only [reduceCtorEq, not_false_eq_true])

theorem table?_updateRow {store store' : Store} {name id : String}
    (hd : (store.ids name).Nodup) {patch : Fields}
    (h : store.updateRow name id patch = .ok store') (other : String) :
    store'.table? other = (store.table? other).map (onTable name (Table.patchRows [id] patch)) := by
  rw [updateRow_eq_of_nodup hd] at h
  cases ht : store.table? name with
  | none =>
      rw [ht] at h
      exact absurd h (by simp only [reduceCtorEq, not_false_eq_true])
  | some t =>
      rw [ht] at h
      dsimp only at h
      by_cases hid : id ∈ t.ids
      · rw [if_pos hid, Except.ok.injEq] at h
        -- Only this table was put back, and the others are found as before.
        rw [← h]
        exact table?_insert_of_table? ht rfl other
      · rw [if_neg hid] at h
        exact absurd h (by simp only [reduceCtorEq, not_false_eq_true])

/-- The rows of a table without those that have one of the ids. -/
theorem table?_deleteRows {store store' : Store} {name : String} {ids : List String}
    (h : store.deleteRows name ids = .ok store') (other : String) :
    store'.table? other = (store.table? other).map (onTable name (Table.dropRows ids)) := by
  rw [deleteRows] at h
  cases ht : store.table? name with
  | none =>
      rw [ht] at h
      exact absurd h (by simp only [reduceCtorEq, not_false_eq_true])
  | some t =>
      rw [ht] at h
      dsimp only at h
      rw [Except.ok.injEq] at h
      rw [← h]
      exact table?_insert_of_table? (f := Table.dropRows ids) ht rfl other

/-- A write to a table that leaves its ids alone leaves the ids of every table alone. -/
theorem ids_of_map_table? {store store' : Store} {f : Table → Table}
    (hf : ∀ t, (f t).ids = t.ids) {name : String}
    (h : store'.table? name = (store.table? name).map f) : store'.ids name = store.ids name := by
  rw [ids, ids, h, Option.map_map]
  cases store.table? name with
  | none => rfl
  | some t => exact hf t

/-- An update that writes no ids leaves the ids of every table as they were. -/
theorem ids_updateRow {store store' : Store} {table id : String}
    (hd : (store.ids table).Nodup) {patch : Fields} (hk : Row.KeepsId patch)
    (h : store.updateRow table id patch = .ok store')
    (name : String) : store'.ids name = store.ids name := by
  refine ids_of_map_table? ?_ (table?_updateRow hd h name)
  exact ids_onTable (Table.ids_patchRows hk [id]) table

theorem updateRow_eq_refusal {store : Store} {table id : String}
    (hd : (store.ids table).Nodup) (hid : id ∉ store.ids table) (patch : Fields) :
    store.updateRow table id patch = .error (store.refusal table id) := by
  rw [updateRow_eq_of_nodup hd, refusal]
  cases ht : store.table? table with
  | none => rfl
  | some t =>
      rw [ids_of_table? ht] at hid
      exact if_neg hid

/-- A write to tables that takes none away and brings none in leaves the answer as it was. -/
theorem refusal_of_map_table? {store store' : Store} {f : Table → Table} {table : String}
    (h : store'.table? table = (store.table? table).map f) (id : String) :
    store'.refusal table id = store.refusal table id := by
  rw [refusal, refusal, h]
  cases store.table? table with
  | none => rfl
  | some t => rfl

/-- The tables after one row was updated and then others, the one being none of the others. -/
theorem map_onTable_patchRows_cons {patch : Fields} (hk : Row.KeepsId patch) {id : String}
    {ids : List String} (hid : id ∉ ids) (table : String) (t? : Option Table) :
    (t?.map (onTable table (Table.patchRows [id] patch))).map
        (onTable table (Table.patchRows ids patch)) =
      t?.map (onTable table (Table.patchRows (id :: ids) patch)) := by
  rw [Option.map_map]
  congr 1
  funext t
  rw [Function.comp_apply, onTable_onTable rfl]
  congr 1
  funext u
  exact Table.patchRows_cons hk hid u

end Store

namespace Selection

/-- An update of a selection patches the rows that it reaches, in the table and in the selection:
the rows before the first that the table lacks, which is the one that it fails with. -/
theorem updateRows_eq_patched {store store' : Store} {table : String} {patch : Fields}
    {rows patched : List Row} {e : Option QueryError} (hk : Row.KeepsId patch)
    (hd : (store.ids table).Nodup) (hrows : (rows.map Row.id).Nodup)
    (h : updateRows store table patch rows = (store', patched, e)) {reached : List String}
    (hreached : reached = (rows.map Row.id).takeWhile fun id => (store.ids table).contains id) :
    (∀ name, store'.table? name =
        (store.table? name).map (Store.onTable table (Table.patchRows reached patch))) ∧
      patched = rows.map (Row.patchIf reached patch) ∧
      e = (rows.find? fun row => !(store.ids table).contains row.id).map fun row =>
        store.refusal table row.id := by
  induction rows generalizing store store' patched e reached with
  | nil =>
      rw [List.map_nil, List.takeWhile_nil] at hreached
      simp only [updateRows, Prod.mk.injEq] at h
      rcases h with ⟨rfl, rfl, rfl⟩
      exact ⟨fun name => hreached ▸ Store.map_onTable_patchRows_nil table patch _, rfl, rfl⟩
  | cons row rest ih =>
      rw [List.map_cons, List.nodup_cons] at hrows
      rw [List.map_cons, List.takeWhile_cons] at hreached
      rw [updateRows] at h
      by_cases hid : row.id ∈ store.ids table
      · have hexists : ∃ next, store.updateRow table row.id patch = .ok next :=
          (Store.exists_updateRow_iff hd).mpr hid
        rcases hexists with ⟨next, hnext⟩
        rw [hnext] at h
        simp only [Prod.mk.injEq] at h
        rcases h with ⟨hstore, hpatched, he⟩
        have hthere := List.contains_iff_mem.mpr hid
        rw [if_pos hthere] at hreached
        have hids := Store.ids_updateRow hd hk hnext
        have hdn : (next.ids table).Nodup := hids table ▸ hd
        -- The rest meets the ids that this row has met, so it stops where the update stops.
        rcases ih hdn hrows.2 (Prod.ext hstore (Prod.ext rfl rfl)) (by rw [hids]) with
          ⟨htables, hrest, herror⟩
        have hnew : row.id ∉ (rest.map Row.id).takeWhile
            fun id => (store.ids table).contains id :=
          fun hmem => hrows.1 ((List.takeWhile_sublist _).subset hmem)
        refine ⟨fun name => ?_, ?_, ?_⟩
        · rw [htables, Store.table?_updateRow hd hnext, hreached]
          exact Store.map_onTable_patchRows_cons hk hnew table _
        · rw [← hpatched, hrest, hreached]
          exact (Row.map_patchIf_cons hrows.1 _ patch).symm
        · rw [← he, herror, hids, List.find?_cons_of_neg (by rw [hthere]; decide)]
          simp only [Store.refusal_of_map_table? (Store.table?_updateRow hd hnext table)]
      · rw [Store.updateRow_eq_refusal hd hid] at h
        simp only [Prod.mk.injEq] at h
        rcases h with ⟨rfl, rfl, rfl⟩
        have hlacks : (store.ids table).contains row.id = false :=
          Bool.eq_false_iff.mpr fun hmem => hid (List.contains_iff_mem.mp hmem)
        rw [hlacks, if_neg Bool.false_ne_true] at hreached
        rw [hreached, List.find?_cons_of_pos (by rw [hlacks]; decide)]
        exact ⟨fun name => Store.map_onTable_patchRows_nil table patch _,
          (Row.map_patchIf_of_not_mem fun _ _ => List.not_mem_nil).symm, rfl⟩

end Selection

end GridQuery
