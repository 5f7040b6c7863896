import GridQuery.Proofs.RowMeaning
import GridQuery.Proofs.Writes
import GridQuery.Table.Session

/-!
# Histories of Sessions

Where the rows of a session come from: a table is its initial rows without the deleted ones and with
the patches of the updates that reached them, and a selection is the rows it was made with and the
patches of its own updates.

A selection is a copy, so it goes stale while others write, and an update of a stale selection may
stop halfway. What a run leaves in a table is therefore no function of the actions alone. It is one
of the deeds, which record what the actions came to: which selection was made, which rows an update
reached, which ids were deleted. A deed names rows by their ids, as they were when it was done, and
that is all a table or a selection needs to be rebuilt from its beginning.

The rebuilding is stated for whole histories, and a history grows at its end, so the proof needs
that what follows a history can be applied to what the history has left. This holds because a patch
without the id key leaves the ids alone, so that the deeds of the second part mean the same rows
before the first part as after it. `Session.Step` lists what an action can do; everything else about
single actions is read off that list.

## Main definitions

* `Action.ThroughSelections`: The actions that make, update and delete selections.
* `Deed`, `Session.deed?`: What an action has done.
* `Session.history`: The deeds of a run.
* `Table.after`: A table after a history.
* `Selection.after`: A selection after the history since it was made.
* `Session.Sound`: No table and no selection has two rows of one id.
* `Session.Step`: What an action through selections can do, and what it is recorded as.
* `Session.ofTables`: The session that begins with a list of tables.

## Theorems

* `Table.after_append`, `Selection.after_append`: Histories one after the other.
* `Table.ids_after`: The ids that a history leaves in a table.
* `step_perform`: Every action through selections is a step.
* `table?_of_step`, `selection?_of_step`, `sound_of_step`: What a step does, and what it keeps.
* `table?_run`: The tables after a run.
* `selection?_run_of_history_eq`: The selections after a run.
* `run_eq_after_history`: Tables and selections after a run from a list of tables.
-/

namespace GridQuery

/-- The action makes, updates or deletes selections, and does not write ids. -/
def Action.ThroughSelections : Action → Prop
  | .select .. | .narrow .. | .copy .. | .delete _ => True
  | .update _ patch => Row.KeepsId patch
  | _ => False

instance (action : Action) : Decidable action.ThroughSelections :=
  match action with
  | .select .. | .narrow .. | .copy .. | .delete _ => isTrue trivial
  | .update _ patch => inferInstanceAs (Decidable (Row.KeepsId patch))
  | .drop _ | .insertTable _ | .updateRow .. | .deleteRows .. => isFalse id

/-- What an action has done: a selection was made, an update through a selection patched the rows
with these ids, or a selection with rows of these ids was deleted. -/
inductive Deed
  | made (name : String) (selection : Selection)
  | updated (name table : String) (ids : List String) (patch : Fields)
  | deleted (name table : String) (ids : List String)
  deriving DecidableEq

namespace Deed

/-- The row of a table with an id was in a selection that was deleted. -/
def deletes (table id : String) : Deed → Bool
  | .deleted _ of ids => of == table && ids.contains id
  | _ => false

/-- The patch of an update that reached the row of a table with an id. -/
def patch? (table id : String) : Deed → Option Fields
  | .updated _ of ids patch => if of = table ∧ id ∈ ids then some patch else none
  | _ => none

/-- The selection under a name was deleted. -/
def empties (name : String) : Deed → Bool
  | .deleted through _ _ => through == name
  | _ => false

/-- The patch of an update through the selection under a name that reached the row with an id. -/
def ownPatch? (name id : String) : Deed → Option Fields
  | .updated through _ ids patch => if through = name ∧ id ∈ ids then some patch else none
  | _ => none

/-- An update does not write ids. -/
def KeepsIds : Deed → Prop
  | .updated _ _ _ patch => Row.KeepsId patch
  | _ => True

end Deed

/-- The row with patches laid over it, in order. -/
def Row.overlaid (patches : List Fields) (row : Row) : Row :=
  patches.foldl Row.patch row

/-- The table after a history: the rows that were not deleted, each overlaid with the patches of the
updates that reached it. -/
def Table.after (deeds : List Deed) (t : Table) : Table :=
  { t with
    rows := (t.rows.filter fun row => !deeds.any (Deed.deletes t.name row.id)).map fun row =>
      row.overlaid (deeds.filterMap (Deed.patch? t.name row.id)) }

/-- The selection under a name after a history: its rows, each overlaid with the patches of the
updates through it that reached the row, or no rows if it was deleted. -/
def Selection.after (name : String) (deeds : List Deed) (s : Selection) : Selection :=
  { s with
    rows := if deeds.any (Deed.empties name) then [] else s.rows.map fun row =>
      row.overlaid (deeds.filterMap (Deed.ownPatch? name row.id)) }

namespace Session

/-- What an action does in a session. -/
def deed? (session : Session) (action : Action) : Option Deed :=
  match action, (session.perform action).2 with
  | .select _ _ name, .selected s | .narrow _ _ name, .selected s | .copy _ name, .selected s =>
    some (.made name s)
  | .update source patch, .updated _ _ => (session.selection? source).map fun s =>
    .updated source s.tableName (session.store.reached s) patch
  | .delete source, .deleted _ => (session.selection? source).map fun s =>
    .deleted source s.tableName s.ids
  | _, _ => none

/-- The deeds of actions in a row. -/
def history (session : Session) : List Action → List Deed
  | [] => []
  | action :: rest =>
    (session.deed? action).toList ++ history (session.perform action).1 rest

/-- No table and no selection has two rows of one id. -/
structure Sound (session : Session) : Prop where
  tables : session.store.Distinct
  selections : ∀ name s, session.selection? name = some s → s.ids.Nodup

end Session

/-! ## Histories one after the other -/

namespace Row

theorem id_overlaid {patches : List Fields} (h : ∀ patch ∈ patches, KeepsId patch) (row : Row) :
    (row.overlaid patches).id = row.id := by
  induction patches generalizing row with
  | nil => rfl
  | cons patch rest ih =>
      have hrest : (row.overlaid (patch :: rest)).id = (row.patch patch).id :=
        ih (fun p hp => h p (List.mem_cons_of_mem patch hp)) (row.patch patch)
      rw [hrest, id_patch_of_keepsId (h patch List.mem_cons_self)]

theorem overlaid_append (first second : List Fields) (row : Row) :
    row.overlaid (first ++ second) = (row.overlaid first).overlaid second :=
  List.foldl_append

end Row

namespace Deed

theorem eq_updated_of_patch? {table id : String} {d : Deed} {patch : Fields}
    (h : d.patch? table id = some patch) : ∃ through of ids, d = .updated through of ids patch := by
  cases d with
  | updated through of ids written =>
      rw [patch?] at h
      split at h
      · exact ⟨through, of, ids, Option.some.inj h ▸ rfl⟩
      · exact absurd h (by simp only [reduceCtorEq, not_false_eq_true])
  | made name s => exact absurd h (by simp only [patch?, reduceCtorEq, not_false_eq_true])
  | deleted through of ids =>
      exact absurd h (by simp only [patch?, reduceCtorEq, not_false_eq_true])

theorem eq_updated_of_ownPatch? {name id : String} {d : Deed} {patch : Fields}
    (h : d.ownPatch? name id = some patch) :
    ∃ through of ids, d = .updated through of ids patch := by
  cases d with
  | updated through of ids written =>
      rw [ownPatch?] at h
      split at h
      · exact ⟨through, of, ids, Option.some.inj h ▸ rfl⟩
      · exact absurd h (by simp only [reduceCtorEq, not_false_eq_true])
  | made name s => exact absurd h (by simp only [ownPatch?, reduceCtorEq, not_false_eq_true])
  | deleted through of ids =>
      exact absurd h (by simp only [ownPatch?, reduceCtorEq, not_false_eq_true])

/-- Patches that are taken from updates which do not write ids leave the id of a row alone. -/
theorem id_overlaid_filterMap {f : Deed → Option Fields} {deeds : List Deed}
    (hf : ∀ d patch, f d = some patch → ∃ through of ids, d = .updated through of ids patch)
    (h : ∀ d ∈ deeds, d.KeepsIds) (row : Row) :
    (row.overlaid (deeds.filterMap f)).id = row.id := by
  refine Row.id_overlaid (fun patch hpatch => ?_) row
  rcases List.mem_filterMap.mp hpatch with ⟨d, hd, hfd⟩
  rcases hf d patch hfd with ⟨through, of, ids, rfl⟩
  exact h _ hd

end Deed

theorem Table.after_nil (t : Table) : t.after [] = t := by
  have hrows : (t.rows.filter fun _ => true).map (Row.overlaid []) = t.rows := by
    rw [List.filter_true]
    exact List.map_id' t.rows
  rw [after]
  exact congrArg (fun rows => { t with rows }) hrows

/-- The deeds of a second part mean the same rows before the first part as after it. -/
theorem Table.after_append {first : List Deed} (h : ∀ d ∈ first, d.KeepsIds)
    (second : List Deed) (t : Table) :
    t.after (first ++ second) = (t.after first).after second := by
  -- The second part finds a row by the id that the first has left it, which is the one it had.
  have hid : ∀ row : Row,
      (row.overlaid (first.filterMap (Deed.patch? t.name row.id))).id = row.id := fun row =>
    Deed.id_overlaid_filterMap (fun _ _ => Deed.eq_updated_of_patch?) h row
  simp only [after, Table.mk.injEq, true_and, List.filter_map, List.map_map]
  rw [List.filter_filter]
  have hkept : (fun row : Row => !(first ++ second).any (Deed.deletes t.name row.id)) =
      fun row => ((fun row : Row => !second.any (Deed.deletes t.name row.id)) ∘ fun row =>
        row.overlaid (first.filterMap (Deed.patch? t.name row.id))) row &&
        !first.any (Deed.deletes t.name row.id) := by
    funext row
    rw [Function.comp_apply, hid, List.any_append, Bool.not_or, Bool.and_comm]
  rw [← hkept]
  refine List.map_congr_left (fun row _ => ?_)
  rw [Function.comp_apply, hid, List.filterMap_append, Row.overlaid_append]

theorem Selection.after_nil (name : String) (s : Selection) : s.after name [] = s := by
  have hrows : s.rows.map (Row.overlaid []) = s.rows := List.map_id' s.rows
  rw [after, List.any_nil, if_neg Bool.false_ne_true]
  exact congrArg (fun rows => { s with rows }) hrows

theorem Selection.after_append {first : List Deed} (h : ∀ d ∈ first, d.KeepsIds)
    (name : String) (second : List Deed) (s : Selection) :
    s.after name (first ++ second) = (s.after name first).after name second := by
  have hid : ∀ row : Row,
      (row.overlaid (first.filterMap (Deed.ownPatch? name row.id))).id = row.id := fun row =>
    Deed.id_overlaid_filterMap (fun _ _ => Deed.eq_updated_of_ownPatch?) h row
  simp only [after, Selection.mk.injEq, true_and, and_true, List.any_append, Bool.or_eq_true]
  -- Once a selection is emptied, nothing that is done through it before or later shows.
  by_cases hsecond : second.any (Deed.empties name) = true
  · rw [if_pos (Or.inr hsecond), if_pos hsecond]
  · rw [if_neg hsecond]
    by_cases hfirst : first.any (Deed.empties name) = true
    · rw [if_pos (Or.inl hfirst), if_pos hfirst, List.map_nil]
    · rw [if_neg (not_or.mpr ⟨hfirst, hsecond⟩), if_neg hfirst, List.map_map]
      refine List.map_congr_left (fun row _ => ?_)
      rw [Function.comp_apply, hid, List.filterMap_append, Row.overlaid_append]

/-- The ids of a table after a history are those of its rows that were not deleted. -/
theorem Table.ids_after {deeds : List Deed} (h : ∀ d ∈ deeds, d.KeepsIds) (t : Table) :
    (t.after deeds).ids = t.ids.filter fun id => !deeds.any (Deed.deletes t.name id) := by
  rw [ids, after, List.map_map, ids, List.filter_map]
  exact List.map_congr_left fun row _ =>
    Deed.id_overlaid_filterMap (fun _ _ => Deed.eq_updated_of_patch?) h row

theorem Table.ids_after_sublist {deeds : List Deed} (h : ∀ d ∈ deeds, d.KeepsIds) (t : Table) :
    (t.after deeds).ids.Sublist t.ids := by
  rw [t.ids_after h]
  exact List.filter_sublist

theorem Selection.ids_after_sublist {deeds : List Deed} (h : ∀ d ∈ deeds, d.KeepsIds)
    (name : String) (s : Selection) : (s.after name deeds).ids.Sublist s.ids := by
  rw [ids, after]
  dsimp only
  split
  · exact List.nil_sublist s.ids
  · -- A set loses all its rows or keeps them under their ids, since no deed writes an id.
    have hids : ((s.rows.map fun row => row.overlaid
        (deeds.filterMap (Deed.ownPatch? name row.id))).map Row.id) = s.rows.map Row.id := by
      rw [List.map_map]
      exact List.map_congr_left fun row _ =>
        Deed.id_overlaid_filterMap (fun _ _ => Deed.eq_updated_of_ownPatch?) h row
    rw [hids]
    exact List.Sublist.refl _

/-! ## Single deeds -/

theorem Row.overlaid_filterMap_singleton {f : Deed → Option Fields} {d : Deed} {patch : Fields}
    {reaches : Prop} [Decidable reaches] (h : f d = if reaches then some patch else none)
    (row : Row) : row.overlaid ([d].filterMap f) = if reaches then row.patch patch else row := by
  by_cases hreaches : reaches
  · rw [if_pos hreaches] at h ⊢
    rw [List.filterMap_cons_some h]
    rfl
  · rw [if_neg hreaches] at h ⊢
    rw [List.filterMap_cons_none h]
    rfl

theorem Table.after_made (name : String) (s : Selection) (t : Table) :
    t.after [.made name s] = t :=
  Table.after_nil t

theorem Table.after_updated (name table : String) (ids : List String) (patch : Fields)
    (t : Table) :
    t.after [.updated name table ids patch] = Store.onTable table (patchRows ids patch) t := by
  -- An update deletes no row, and it is the only patch that a row gets.
  have hkept : (t.rows.filter fun row =>
      !([Deed.updated name table ids patch].any (Deed.deletes t.name row.id))) = t.rows :=
    List.filter_true t.rows
  have hrow : ∀ row : Row, row.overlaid ([Deed.updated name table ids patch].filterMap
      (Deed.patch? t.name row.id)) =
        if table = t.name ∧ row.id ∈ ids then row.patch patch else row := fun row =>
    Row.overlaid_filterMap_singleton rfl row
  rw [after, hkept]
  simp only [hrow]
  by_cases hname : t.name = table
  · subst hname
    rw [Store.onTable, if_pos rfl]
    simp only [true_and]
    rfl
  · rw [Store.onTable, if_neg hname]
    simp only [Ne.symm hname, false_and, if_false, List.map_id']

theorem Table.after_deleted (name table : String) (ids : List String) (t : Table) :
    t.after [.deleted name table ids] = Store.onTable table (dropRows ids) t := by
  -- A deletion patches no row.
  have hrows : ∀ rows : List Row, (rows.map fun row => row.overlaid
      ([Deed.deleted name table ids].filterMap (Deed.patch? t.name row.id))) = rows := fun rows =>
    List.map_id' rows
  rw [after, hrows, Store.onTable]
  simp only [List.any_cons, List.any_nil, Bool.or_false, Deed.deletes]
  by_cases hname : t.name = table
  · rw [if_pos hname, hname, beq_self_eq_true]
    simp only [Bool.true_and]
    rw [← hname, dropRows]
  · have hne : (table == t.name) = false := beq_eq_false_iff_ne.mpr (Ne.symm hname)
    rw [if_neg hname, hne]
    simp only [Bool.false_and, Bool.not_false, List.filter_true]

theorem Selection.after_updated (name table : String) (ids : List String) (patch : Fields)
    (s : Selection) :
    s.after name [.updated name table ids patch] =
      { s with rows := s.rows.map (Row.patchIf ids patch) } := by
  have hrow : ∀ row : Row, row.overlaid ([Deed.updated name table ids patch].filterMap
      (Deed.ownPatch? name row.id)) =
        if name = name ∧ row.id ∈ ids then row.patch patch else row := fun row =>
    Row.overlaid_filterMap_singleton rfl row
  have hkept : ([Deed.updated name table ids patch].any (Deed.empties name)) = false := rfl
  rw [after, hkept, if_neg Bool.false_ne_true]
  simp only [hrow, true_and]
  rfl

theorem Selection.after_deleted (name table : String) (ids : List String) (s : Selection) :
    s.after name [.deleted name table ids] = { s with rows := [] } := by
  have hempty : ([Deed.deleted name table ids].any (Deed.empties name)) = true := by
    rw [List.any_cons, Deed.empties, beq_self_eq_true, Bool.true_or]
  rw [after, if_pos hempty]

/-- What is done through another selection does not concern a selection. -/
theorem Selection.after_updated_of_ne {name through : String} (h : through ≠ name)
    (table : String) (ids : List String) (patch : Fields) (s : Selection) :
    s.after name [.updated through table ids patch] = s := by
  have hrow : ∀ row : Row, row.overlaid ([Deed.updated through table ids patch].filterMap
      (Deed.ownPatch? name row.id)) =
        if through = name ∧ row.id ∈ ids then row.patch patch else row := fun row =>
    Row.overlaid_filterMap_singleton rfl row
  have hkept : ([Deed.updated through table ids patch].any (Deed.empties name)) = false := rfl
  rw [after, hkept, if_neg Bool.false_ne_true]
  simp only [hrow, h, false_and, if_false, List.map_id']

theorem Selection.after_deleted_of_ne {name through : String} (h : through ≠ name)
    (table : String) (ids : List String) (s : Selection) :
    s.after name [.deleted through table ids] = s := by
  have hkept : ([Deed.deleted through table ids].any (Deed.empties name)) = false := by
    rw [List.any_cons, Deed.empties, beq_eq_false_iff_ne.mpr h]
    rfl
  have hrows : (s.rows.map fun row => row.overlaid
      ([Deed.deleted through table ids].filterMap (Deed.ownPatch? name row.id))) = s.rows :=
    List.map_id' s.rows
  rw [after, hkept, if_neg Bool.false_ne_true, hrows]

theorem Selection.after_made (name other : String) (made s : Selection) :
    s.after name [.made other made] = s :=
  Selection.after_nil name s

/-! ## Single actions -/

namespace Session

theorem selection?_keep (session : Session) (name : String) (s : Selection) (other : String) :
    (session.keep name s).selection? other =
      if other = name then some s else session.selection? other := by
  rw [selection?, keep, List.lookup_cons]
  by_cases hother : other = name
  · rw [if_pos hother, beq_iff_eq.mpr hother]
  · rw [if_neg hother, beq_eq_false_iff_ne.mpr hother]
    dsimp only
    rw [selection?]
    -- Only entries under the name itself are left out.
    induction session.selections with
    | nil => rfl
    | cons entry rest ih =>
        rcases entry with ⟨key, kept⟩
        rw [List.filter_cons]
        by_cases hkey : key = name
        · have hne : (other == key) = false := beq_eq_false_iff_ne.mpr (hkey ▸ hother)
          rw [if_neg (by simp only [hkey, bne_self_eq_false, Bool.false_eq_true,
            not_false_eq_true]), ih, List.lookup_cons, hne]
        · rw [if_pos (bne_iff_ne.mpr hkey), List.lookup_cons, List.lookup_cons, ih]

end Session

/-- A condition text selects all rows, or those that its condition selects. -/
theorem Selection.eq_or_filterRows_of_matching {columns : List Column} {rows found : List Row}
    {conditions : String} (h : matching columns rows conditions = .ok found) :
    found = rows ∨ ∃ condition : Condition, condition.filterRows columns rows = .ok found := by
  rw [matching] at h
  split at h
  · exact .inl (Except.ok.inj h).symm
  · split at h
    · exact absurd h (by simp only [reduceCtorEq, not_false_eq_true])
    · next condition _ => exact .inr ⟨condition, h⟩

/-- A selection has rows that its conditions select from a table of the store. -/
theorem Store.exists_of_select {store : Store} {table conditions : String} {s : Selection}
    (h : store.select table conditions = .ok s) : ∃ t found, store.table? table = some t ∧
      Selection.matching t.columns t.rows conditions = .ok found ∧
      s = ⟨table, t.columns, found, conditions⟩ := by
  rcases bind_eq_ok_iff.mp h with ⟨t, ht, hmake⟩
  rcases map_eq_ok_iff.mp hmake with ⟨found, hfound, rfl⟩
  refine ⟨t, found, ?_, hfound, rfl⟩
  -- The one lookup fails where the other finds nothing.
  rw [Store.table] at ht
  cases hthere : store.table? table with
  | none =>
      rw [hthere] at ht
      exact absurd ht (by simp only [reduceCtorEq, not_false_eq_true])
  | some u =>
      rw [hthere] at ht
      exact congrArg some (Except.ok.inj ht)

theorem Selection.nodup_ids_make {tableName conditions : String} {columns : List Column}
    {rows : List Row} {s : Selection} (h : make tableName columns rows conditions = .ok s)
    (hids : (rows.map Row.id).Nodup) : s.ids.Nodup := by
  rcases map_eq_ok_iff.mp h with ⟨found, hfound, rfl⟩
  rcases eq_or_filterRows_of_matching hfound with rfl | ⟨condition, hcondition⟩
  · exact hids
  · exact Condition.nodup_map_select hcondition hids

theorem Selection.nodup_ids_select {store : Store} {table conditions : String} {s : Selection}
    (h : store.select table conditions = .ok s) (hd : store.Distinct) : s.ids.Nodup := by
  rcases Store.exists_of_select h with ⟨t, found, ht, hfound, rfl⟩
  have hids : t.ids.Nodup := Store.ids_of_table? ht ▸ hd table
  exact nodup_ids_make (map_eq_ok_iff.mpr ⟨found, hfound, rfl⟩) hids

/-- A deletion takes the rows with the ids of the selection out of its table, also where it need not
ask the store because there are none. -/
theorem Selection.delete_eq_emptied {s emptied : Selection} {store store' : Store} {count : Nat}
    (h : s.delete store = .ok (store', emptied, count)) :
    emptied = { s with rows := [] } ∧ ∀ other, store'.table? other =
      (store.table? other).map (Store.onTable s.tableName (Table.dropRows s.ids)) := by
  rw [delete] at h
  split at h
  · next hempty =>
      -- Without rows the store is not touched, and a table less no ids is the same table.
      have hrows : s.rows = [] := List.isEmpty_iff.mp hempty
      simp only [Except.ok.injEq, Prod.mk.injEq] at h
      rcases h with ⟨rfl, rfl, _⟩
      refine ⟨congrArg (fun rows => { s with rows }) hrows, fun other => ?_⟩
      have hdrop : ∀ t : Table, Store.onTable s.tableName (Table.dropRows s.ids) t = t := by
        intro t
        rw [ids, hrows, Store.onTable, Table.dropRows]
        simp only [List.map_nil, List.contains_nil, Bool.not_false, List.filter_true, ite_self]
      cases store.table? other with
      | none => rfl
      | some t => rw [Option.map_some, hdrop]
  · -- With rows the store deletes them by id.
    rcases map_eq_ok_iff.mp h with ⟨next, hnext, heq⟩
    simp only [Prod.mk.injEq] at heq
    rcases heq with ⟨rfl, rfl, _⟩
    exact ⟨rfl, Store.table?_deleteRows hnext⟩

namespace Session

/-- How an action through selections leaves a session, and the deed that it was. -/
inductive Step (session : Session) : Option Deed → Session → Prop
  | unchanged : Step session none session
  | made (name : String) (s : Selection) :
    (session.Sound → s.ids.Nodup) → Step session (some (.made name s)) (session.keep name s)
  | updated (name : String) {s : Selection} {patch : Fields} {store : Store} {rows : List Row}
    {e : Option QueryError} :
    session.selection? name = some s → Row.KeepsId patch →
      Selection.updateRows session.store s.tableName patch s.rows = (store, rows, e) →
      Step session (some (.updated name s.tableName (session.store.reached s) patch))
        ({ session with store }.keep name { s with rows })
  | deleted (name : String) {s : Selection} {store : Store} :
    session.selection? name = some s →
      (∀ other, store.table? other =
        (session.store.table? other).map (Store.onTable s.tableName (Table.dropRows s.ids))) →
      Step session (some (.deleted name s.tableName s.ids))
        ({ session with store }.keep name { s with rows := [] })

theorem step_perform (session : Session) {action : Action} (h : action.ThroughSelections) :
    session.Step (session.deed? action) (session.perform action).1 := by
  -- Every action asks for something first, and one that is refused leaves the session unchanged.
  cases action with
  | select table conditions name =>
      simp only [deed?, perform]
      cases hs : session.store.select table conditions with
      | error e => exact .unchanged
      | ok s => exact .made name s fun hsound => Selection.nodup_ids_select hs hsound.tables
  | narrow source conditions name =>
      simp only [deed?, perform, withSelection]
      cases hsource : session.selection? source with
      | none => exact .unchanged
      | some s =>
          cases hs : s.narrow conditions with
          | error e => simp only [hs]; exact .unchanged
          | ok narrowed =>
              simp only [hs]
              exact .made name narrowed fun hsound =>
                Selection.nodup_ids_make hs (hsound.selections source s hsource)
  | copy source name =>
      simp only [deed?, perform, withSelection]
      cases hsource : session.selection? source with
      | none => exact .unchanged
      | some s => exact .made name s fun hsound => hsound.selections source s hsource
  | update source patch =>
      simp only [deed?, perform, withSelection]
      cases hsource : session.selection? source with
      | none => exact .unchanged
      | some s =>
          simp only [hsource, Option.map_some]
          exact .updated source hsource h rfl
  | delete source =>
      simp only [deed?, perform, withSelection]
      cases hsource : session.selection? source with
      | none => exact .unchanged
      | some s =>
          cases hdelete : s.delete session.store with
          | error e => simp only [hdelete]; exact .unchanged
          | ok result =>
              rcases result with ⟨store, emptied, count⟩
              rcases Selection.delete_eq_emptied hdelete with ⟨rfl, hstore⟩
              simp only [hdelete, hsource, Option.map_some]
              exact .deleted source hsource hstore
  | drop | insertTable | updateRow | deleteRows => exact h.elim

theorem keepsIds_of_step {session session' : Session} {deed : Option Deed}
    (h : session.Step deed session') : ∀ d ∈ deed.toList, d.KeepsIds := by
  intro d hd
  rw [Option.mem_toList] at hd
  -- Only an update could write ids, and a step has only updates that do not.
  cases h with
  | unchanged => exact absurd hd (by simp only [reduceCtorEq, not_false_eq_true])
  | made name s _ =>
      rw [← Option.some.inj hd]
      exact trivial
  | updated name _ hk _ =>
      rw [← Option.some.inj hd]
      exact hk
  | deleted name _ _ =>
      rw [← Option.some.inj hd]
      exact trivial

theorem table?_of_step {session session' : Session} {deed : Option Deed} (hsound : session.Sound)
    (h : session.Step deed session') (name : String) :
    session'.store.table? name = (session.store.table? name).map (Table.after deed.toList) := by
  cases h with
  | unchanged =>
      rw [Option.toList_none, funext Table.after_nil]
      -- Nothing was done, and every table stays.
      exact Option.map_id'.symm
  | made other s _ =>
      rw [Option.toList_some, funext (Table.after_made other s)]
      -- A set that is made writes nothing.
      exact Option.map_id'.symm
  | updated other hs hk hupdate =>
      rw [Option.toList_some, funext (Table.after_updated other _ _ _)]
      -- This is where distinct ids are needed: the first row with an id is the only one.
      exact (Selection.updateRows_eq_patched hk (hsound.tables _) (hsound.selections other _ hs)
        hupdate rfl).1 name
  | deleted other _ hstore =>
      rw [Option.toList_some, funext (Table.after_deleted other _ _)]
      exact hstore name

theorem selection?_of_step {session session' : Session} {deed : Option Deed}
    (hsound : session.Sound) (h : session.Step deed session') {name : String}
    (hmade : ∀ s, deed ≠ some (.made name s)) :
    session'.selection? name =
      (session.selection? name).map (Selection.after name deed.toList) := by
  cases h with
  | unchanged =>
      rw [Option.toList_none, funext (Selection.after_nil name)]
      exact Option.map_id'.symm
  | made other s _ =>
      -- A set was made, but under another name.
      have hother : name ≠ other := fun heq => hmade s (by rw [heq])
      rw [Option.toList_some, funext (Selection.after_made name other s), selection?_keep,
        if_neg hother]
      exact Option.map_id'.symm
  | updated other hs hk hupdate =>
      rw [Option.toList_some, selection?_keep]
      by_cases hother : name = other
      · rw [if_pos hother, hother, hs, Option.map_some, Selection.after_updated]
        have hrows := (Selection.updateRows_eq_patched hk (hsound.tables _)
          (hsound.selections other _ hs) hupdate rfl).2.1
        rw [hrows]
        rfl
      · rw [if_neg hother, funext (Selection.after_updated_of_ne (Ne.symm hother) _ _ _)]
        exact Option.map_id'.symm
  | deleted other hs _ =>
      rw [Option.toList_some, selection?_keep]
      by_cases hother : name = other
      · rw [if_pos hother, hother, hs, Option.map_some, Selection.after_deleted]
      · rw [if_neg hother, funext (Selection.after_deleted_of_ne (Ne.symm hother) _ _)]
        exact Option.map_id'.symm

/-- An action through selections keeps the ids of every table and of every selection distinct. -/
theorem sound_of_step {session session' : Session} {deed : Option Deed} (hsound : session.Sound)
    (h : session.Step deed session') : session'.Sound := by
  have hkeeps := keepsIds_of_step h
  constructor
  · intro name
    have htable := table?_of_step hsound h name
    have hids := hsound.tables name
    rw [Store.ids, htable, Option.map_map]
    rw [Store.ids] at hids
    cases hold : session.store.table? name with
    | none => exact List.nodup_nil
    | some t =>
        rw [hold] at hids
        exact hids.sublist (t.ids_after_sublist hkeeps)
  · intro name s hs
    by_cases hmade : ∃ made, deed = some (.made name made)
    · -- A new selection takes the name, and its ids are distinct because it could be made.
      rcases hmade with ⟨made, rfl⟩
      cases h with
      | made _ _ hids =>
          rw [selection?_keep, if_pos rfl] at hs
          exact Option.some.inj hs ▸ hids hsound
    · have hother : ∀ made, deed ≠ some (.made name made) := fun made heq => hmade ⟨made, heq⟩
      have hold := selection?_of_step hsound h hother
      rw [hs] at hold
      rcases Option.map_eq_some_iff.mp hold.symm with ⟨before, hbefore, rfl⟩
      exact (hsound.selections name before hbefore).sublist (before.ids_after_sublist hkeeps name)

/-! ## Runs -/

theorem run_cons (session : Session) (action : Action) (rest : List Action) :
    session.run (action :: rest) = (session.perform action).1.run rest := rfl

/-- The tables after a run are those before it, after its history. -/
theorem table?_run {session : Session} (hsound : session.Sound) {actions : List Action}
    (h : ∀ action ∈ actions, action.ThroughSelections) (name : String) :
    (session.run actions).store.table? name =
      (session.store.table? name).map (Table.after (session.history actions)) := by
  induction actions generalizing session with
  | nil =>
      rw [history, funext Table.after_nil]
      exact Option.map_id'.symm
  | cons action rest ih =>
      have hstep := session.step_perform (h action List.mem_cons_self)
      have hrest := ih (sound_of_step hsound hstep)
        fun a ha => h a (List.mem_cons_of_mem action ha)
      -- The deed of the action is the first part of the history, and the rest is the second.
      rw [run_cons, hrest, table?_of_step hsound hstep, Option.map_map, history]
      congr 1
      funext t
      exact (Table.after_append (keepsIds_of_step hstep) _ t).symm

/-- A selection that is not made anew in a run is what it was before it, after its history. -/
theorem selection?_run {session : Session} (hsound : session.Sound) {actions : List Action}
    (h : ∀ action ∈ actions, action.ThroughSelections) {name : String}
    (hmade : ∀ s, .made name s ∉ session.history actions) :
    (session.run actions).selection? name =
      (session.selection? name).map (Selection.after name (session.history actions)) := by
  induction actions generalizing session with
  | nil =>
      rw [history, funext (Selection.after_nil name)]
      exact Option.map_id'.symm
  | cons action rest ih =>
      -- The first action is one step, and the rest runs on from a session that is sound again.
      have hstep := session.step_perform (h action List.mem_cons_self)
      have hhead : ∀ s, session.deed? action ≠ some (.made name s) := fun s heq =>
        hmade s (by
          rw [history, heq]
          exact List.mem_append_left _ List.mem_cons_self)
      have htail : ∀ s, .made name s ∉ (session.perform action).1.history rest := fun s hs =>
        hmade s (List.mem_append_right _ hs)
      rw [run_cons, ih (sound_of_step hsound hstep)
        (fun a ha => h a (List.mem_cons_of_mem action ha)) htail,
        selection?_of_step hsound hstep hhead, Option.map_map, history]
      -- What a set is after all deeds is what it is after the later ones, taken from where the
      -- first leaves it.
      congr 1
      funext s
      exact (Selection.after_append (keepsIds_of_step hstep) name _ s).symm

/-- A selection that was made in a run, and not made anew since, is what was made, after the history
from there on. -/
theorem selection?_run_of_history_eq {session : Session} (hsound : session.Sound)
    {actions : List Action} (h : ∀ action ∈ actions, action.ThroughSelections) {name : String}
    {s : Selection} {before later : List Deed}
    (hhistory : session.history actions = before ++ .made name s :: later)
    (hlater : ∀ s', .made name s' ∉ later) :
    (session.run actions).selection? name = some (s.after name later) := by
  induction actions generalizing session before with
  | nil => exact absurd hhistory.symm (by simp only [history, List.append_eq_nil_iff, reduceCtorEq,
      and_false, not_false_eq_true])
  | cons action rest ih =>
      have hstep := session.step_perform (h action List.mem_cons_self)
      have hsound' := sound_of_step hsound hstep
      have hrest := fun a ha => h a (List.mem_cons_of_mem action ha)
      rw [run_cons]
      rw [history] at hhistory
      -- The making is either the deed of this action or one of the rest.
      cases hdeed : session.deed? action with
      | none =>
          rw [hdeed, Option.toList_none, List.nil_append] at hhistory
          exact ih hsound' hrest hhistory
      | some d =>
          rw [hdeed, Option.toList_some, List.singleton_append] at hhistory
          cases before with
          | cons first before =>
              rw [List.cons_append, List.cons.injEq] at hhistory
              exact ih hsound' hrest hhistory.2
          | nil =>
              rw [List.nil_append, List.cons.injEq] at hhistory
              rcases hhistory with ⟨rfl, hhistory⟩
              rw [hdeed] at hstep
              have hmade : (session.perform action).1.selection? name = some s := by
                generalize (session.perform action).1 = next at hstep
                cases hstep
                rw [selection?_keep, if_pos rfl]
              rw [selection?_run hsound' hrest (hhistory ▸ hlater), hmade, Option.map_some,
                hhistory]

end Session

/-! ## Runs from tables -/

theorem Store.distinct_insert {store : Store} (hd : store.Distinct) {t : Table}
    (ht : t.ids.Nodup) : (store.insert t).Distinct := by
  intro name
  rw [ids, table?_insert]
  by_cases hname : name = t.name
  · rw [if_pos hname]
    exact ht
  · rw [if_neg hname]
    exact hd name

theorem Store.distinct_ofList {tables : List Table} (h : ∀ t ∈ tables, t.ids.Nodup) :
    (ofList tables).Distinct := by
  have hfold : ∀ (store : Store), store.Distinct → (tables.foldl insert store).Distinct := by
    induction tables with
    | nil => exact fun store hd => hd
    | cons t rest ih =>
        intro store hd
        exact ih (fun u hu => h u (List.mem_cons_of_mem t hu)) (store.insert t)
          (distinct_insert hd (h t List.mem_cons_self))
  exact hfold empty fun name => List.nodup_nil

/-- A session that begins with tables and no selections. -/
def Session.ofTables (tables : List Table) : Session := ⟨Store.ofList tables, []⟩

theorem Session.sound_ofTables {tables : List Table} (h : ∀ t ∈ tables, t.ids.Nodup) :
    (ofTables tables).Sound :=
  ⟨Store.distinct_ofList h, fun name s hs =>
    absurd hs (by simp only [ofTables, selection?, List.lookup_nil, reduceCtorEq,
      not_false_eq_true])⟩

/-- After any run through selections from tables with distinct ids, a table is its initial rows but
the deleted ones, in their order and each overlaid with the patches of the updates that reached it.
A selection is what was made under its name last, each row overlaid with the patches of the updates
through it that reached the row, or empty if it was deleted; and nothing else is a selection. -/
theorem Session.run_eq_after_history {tables : List Table} {actions : List Action}
    (hids : ∀ t ∈ tables, t.ids.Nodup)
    (hactions : ∀ action ∈ actions, action.ThroughSelections) :
    (∀ name, ((ofTables tables).run actions).store.table? name =
        ((ofTables tables).store.table? name).map
          (Table.after ((ofTables tables).history actions))) ∧
      (∀ name s before later,
        (ofTables tables).history actions = before ++ .made name s :: later →
        (∀ s', .made name s' ∉ later) →
        ((ofTables tables).run actions).selection? name = some (s.after name later)) ∧
      ∀ name, (∀ s, .made name s ∉ (ofTables tables).history actions) →
        ((ofTables tables).run actions).selection? name = none := by
  have hsound := sound_ofTables hids
  refine ⟨fun name => table?_run hsound hactions name, ?_, ?_⟩
  · -- The set is made at this place of the history, and nothing later takes its name.
    intro name s before later hhistory hlater
    exact selection?_run_of_history_eq hsound hactions hhistory hlater
  · -- There are no sets to begin with, and none of this name was made.
    intro name hmade
    rw [selection?_run hsound hactions hmade]
    rfl

/-- A selection that is deleted through its copy can still be updated, but no row is reached. -/
theorem Session.run_eq_after_history_stale :
    let columns : List Column := [⟨"0000", "Name", .text, none⟩]
    let rows : List Row :=
      [⟨[("Name", .string "apple"), ("_id", .string "r1")]⟩, ⟨[("_id", .string "r2")]⟩]
    let tables : List Table := [⟨"Fruit", columns, rows⟩]
    let actions : List Action :=
      [.select "Fruit" "" "all", .copy "all" "again", .update "all" [("Name", .string "pear")],
        .delete "again", .update "all" [("Age", .null)]]
    let all : Selection := ⟨"Fruit", columns, rows, ""⟩
    let later : List Deed :=
      [.made "again" all, .updated "all" "Fruit" ["r1", "r2"] [("Name", .string "pear")],
        .deleted "again" "Fruit" ["r1", "r2"], .updated "all" "Fruit" [] [("Age", .null)]]
    (∀ t ∈ tables, t.ids.Nodup) ∧ (∀ action ∈ actions, action.ThroughSelections) ∧
      (ofTables tables).history actions = .made "all" all :: later ∧
      (∀ s, .made "all" s ∉ later) ∧
      ((ofTables tables).run actions).selection? "all" = some (all.after "all" later) ∧
      ((ofTables tables).run actions).store.table? "Fruit" =
        ((ofTables tables).store.table? "Fruit").map (Table.after (.made "all" all :: later)) := by
  intro columns rows tables actions all later
  have hids : ∀ t ∈ tables, t.ids.Nodup := by decide
  have hactions : ∀ action ∈ actions, action.ThroughSelections := by decide
  have hhistory : (ofTables tables).history actions = .made "all" all :: later := by decide
  have hlater : ∀ s, .made "all" s ∉ later := by
    intro s hs
    simp only [later, List.mem_cons, Deed.made.injEq, reduceCtorEq, List.not_mem_nil, or_false]
      at hs
    exact absurd hs.1 (by decide)
  have hrun := run_eq_after_history hids hactions
  exact ⟨hids, hactions, hhistory, hlater, hrun.2.1 "all" all [] later hhistory hlater,
    hhistory ▸ hrun.1 "Fruit"⟩

end GridQuery
