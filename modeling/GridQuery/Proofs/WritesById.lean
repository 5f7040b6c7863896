import GridQuery.Proofs.RowIdentity
import Mathlib.Data.String.Basic

/-!
# Writes by Id

What an update or a deletion through a fresh selection does to a table in which rows may share ids.

A write names its row by the id and by nothing else. A deletion takes every row that has one of the
ids, and so takes rows that were not selected along with those that were. An update takes the first
row that has the id, which need not be the selected one, and a second write of the id meets the same
row again. If the patch writes an id, however, the row that was met has another id from then on, and
the second write meets the second row; except for writes of the very id that is written, which meet
the first of all rows that have it by now. So which rows an update reaches depends on how often an
id is written and on what is written. `Row.Reached` says which they are, of a row by its id and by
the ids of the rows before it.

Two things hold for any ids and any patch. An update of a fresh selection is never refused, since
the selection has no more rows of an id than its table. And no write changes a row whose id no
selected row has. A row that does not share its id is written if and only if it was selected, unless
the patch writes this id.

## Main definitions

* `Row.idUnder`: The id that a row has under a patch.
* `Row.Reached`: An update of rows with some ids reaches a row.
* `Row.idsUnder`: The ids of rows after one write.
* `Table.patchFirst`, `Table.patchReached`: The table after one write, and after an update.

## Theorems

* `Row.patch_patch`: A patch that is laid twice is laid once.
* `Row.reached_cons_self`, `Row.reached_cons_iff`: Being reached first, or by the writes after that.
* `Table.patchReached_cons`: An update is its first write and the update of the other rows.
* `Selection.updateRows_eq_reached`: An update patches the rows that it reaches.
* `Condition.count_ids_select`: A condition selects no more rows of an id than there are.
* `Selection.writes_by_id`: What writes through a fresh selection do.
* `Selection.not_writes_selected`: Rows that were not selected are deleted and patched.
-/

namespace GridQuery

/-! ## Patching twice -/

namespace Fields

/-- Of two values written under one key the second is left. -/
theorem insert_insert_self (key : String) (first second : Json) (fields : Fields) :
    insert key second (insert key first fields) = insert key second fields := by
  induction fields with
  | nil => simp only [insert, if_true]
  | cons field rest ih => grind [insert]

theorem insert_comm {key other : String} (h : key ≠ other) (first second : Json)
    (fields : Fields) :
    insert key first (insert other second fields) =
      insert other second (insert key first fields) := by
  induction fields with
  | nil => grind [insert]
  | cons field rest ih => grind [insert]

theorem overlay_cons (key : String) (value : Json) (fields rest : Fields) :
    overlay fields ((key, value) :: rest) = overlay (insert key value fields) rest := rfl

/-- What is written under a key before fields with the key does not show. -/
theorem overlay_insert_of_mem {key : String} {written : Fields}
    (h : key ∈ written.map Prod.fst) (value : Json) (fields : Fields) :
    overlay (insert key value fields) written = overlay fields written := by
  induction written generalizing fields with
  | nil => exact absurd h List.not_mem_nil
  | cons field rest ih =>
      rcases field with ⟨k, v⟩
      rw [overlay_cons, overlay_cons]
      by_cases hk : k = key
      · -- This field is written over the inserted one.
        rw [hk, insert_insert_self]
      · -- Another field is written, which does not matter to the key.
        rcases List.mem_cons.mp h with heq | hrest
        · exact absurd heq.symm hk
        · rw [insert_comm hk, ih hrest]

theorem insert_overlay_of_not_mem {key : String} {written : Fields}
    (h : key ∉ written.map Prod.fst) (value : Json) (fields : Fields) :
    insert key value (overlay fields written) = overlay (insert key value fields) written := by
  induction written generalizing fields with
  | nil => rfl
  | cons field rest ih =>
      rcases field with ⟨k, v⟩
      rw [List.map_cons, List.mem_cons, not_or] at h
      rw [overlay_cons, overlay_cons, ih h.2, insert_comm h.1]

/-- Fields that are written twice in a row are written once. -/
theorem overlay_overlay_self (fields written : Fields) :
    overlay (overlay fields written) written = overlay fields written := by
  induction written generalizing fields with
  | nil => rfl
  | cons field rest ih =>
      rcases field with ⟨key, value⟩
      rw [overlay_cons, overlay_cons]
      -- A later field with the key covers this one both times; otherwise it can be moved forward.
      by_cases hkey : key ∈ rest.map Prod.fst
      · rw [overlay_insert_of_mem hkey, ih]
      · rw [insert_overlay_of_not_mem hkey, insert_insert_self, ih]

end Fields

namespace Row

theorem patch_patch (row : Row) (patch : Fields) :
    (row.patch patch).patch patch = row.patch patch :=
  congrArg Row.mk (Fields.overlay_overlay_self row.cells patch)

/-- The id under a patch of a row that has an id. -/
def idUnder (patch : Fields) (id : String) : String :=
  if KeepsId patch then id else writtenId patch

theorem id_patch_eq_idUnder (row : Row) (patch : Fields) :
    (row.patch patch).id = idUnder patch row.id := by
  unfold idUnder
  split
  · next hkeeps => exact id_patch_of_keepsId hkeeps row
  · next hwrites => exact id_patch_of_not_keepsId hwrites row

/-- An update of rows with the written ids, one after the other, reaches a row that has an id and
stands behind rows that have the ids before it. If no id is written, this is the first row of the
id. Otherwise as many rows are reached as are written, but of the rows that have the new id already
only the first, and only if no row that was written before it stands above it. -/
def Reached (patch : Fields) (written before : List String) (id : String) : Prop :=
  if KeepsId patch then id ∈ written ∧ id ∉ before
  else if id = writtenId patch then
    id ∈ written ∧ ∀ other ∈ id :: written.takeWhile (· != id), other ∉ before
  else before.count id < written.count id

instance (patch : Fields) (written before : List String) (id : String) :
    Decidable (Reached patch written before id) := by
  unfold Reached
  infer_instance

/-- Only rows with a written id are reached. -/
theorem mem_of_reached {patch : Fields} {written before : List String} {id : String}
    (h : Reached patch written before id) : id ∈ written := by
  unfold Reached at h
  split at h
  · exact h.1
  · split at h
    · exact h.1
    · exact List.count_pos_iff.mp (Nat.lt_of_le_of_lt (Nat.zero_le _) h)

/-- A row that no row of its id stands above is reached, unless its id is the one that a patch gives
to others. -/
theorem reached_of_not_mem {patch : Fields} {written before : List String} {id : String}
    (hid : id ∈ written) (hbefore : id ∉ before) (h : KeepsId patch ∨ id ≠ writtenId patch) :
    Reached patch written before id := by
  unfold Reached
  split
  · exact ⟨hid, hbefore⟩
  · next hwrites =>
      rw [if_neg (h.resolve_left hwrites), List.count_eq_zero_of_not_mem hbefore]
      exact List.count_pos_iff.mpr hid

/-- The ids of rows after a write of an id, which has patched the first row that has it. -/
def idsUnder (patch : Fields) (id : String) (ids : List String) : List String :=
  ids.set (ids.idxOf id) (idUnder patch id)

theorem idsUnder_of_not_mem {id : String} {ids : List String} (h : id ∉ ids) (patch : Fields) :
    idsUnder patch id ids = ids := by
  rw [idsUnder, List.idxOf_of_notMem h]
  exact List.set_eq_of_length_le (Nat.le_refl _)

theorem idsUnder_of_idUnder_eq {patch : Fields} {id : String} (h : idUnder patch id = id)
    (ids : List String) : idsUnder patch id ids = ids := by
  by_cases hid : id ∈ ids
  · refine List.ext_getElem? fun i => ?_
    rw [idsUnder, h, List.getElem?_set]
    split
    · next hi => rw [if_pos (List.idxOf_lt_length_of_mem hid), ← hi, List.getElem?_idxOf hid]
    · rfl
  · exact idsUnder_of_not_mem hid patch

/-- A write looks for the first row, so it is the same write before any position behind it. -/
theorem take_idsUnder (patch : Fields) (id : String) (ids : List String) (i : Nat) :
    (idsUnder patch id ids).take i = idsUnder patch id (ids.take i) := by
  rw [idsUnder, List.take_set]
  by_cases hid : id ∈ ids.take i
  · rw [idsUnder, (List.take_prefix i ids).idxOf_eq_of_mem hid]
  · -- The row that is met does not stand before the position.
    rw [idsUnder_of_not_mem hid]
    refine List.set_eq_of_length_le ?_
    calc (ids.take i).length = (ids.take i).idxOf id := (List.idxOf_of_notMem hid).symm
      _ ≤ ids.idxOf id := (List.take_prefix i ids).idxOf_le id

/-- One row has lost the id and one has gained the id under the patch. -/
theorem count_idsUnder {id : String} {ids : List String} (h : id ∈ ids) (patch : Fields)
    (other : String) :
    (idsUnder patch id ids).count other + (if id = other then 1 else 0) =
      ids.count other + if idUnder patch id = other then 1 else 0 := by
  have hlt := List.idxOf_lt_length_of_mem h
  -- The count that one is taken from is not zero.
  have hpos : id = other → 0 < ids.count other := fun heq => List.count_pos_iff.mpr (heq ▸ h)
  rw [idsUnder, List.count_set hlt, List.getElem_idxOf hlt]
  simp only [beq_iff_eq]
  by_cases heq : id = other
  · have := hpos heq
    simp only [if_pos heq]
    omega
  · simp only [if_neg heq]
    omega

theorem mem_idsUnder {id : String} {ids : List String} (h : id ∈ ids) (patch : Fields) :
    idUnder patch id ∈ idsUnder patch id ids :=
  List.mem_set (List.idxOf_lt_length_of_mem h) _

/-- The row that the first write patches is reached. -/
theorem reached_cons_self {id : String} {before : List String} (h : id ∉ before) (patch : Fields)
    (written : List String) : Reached patch (id :: written) before id := by
  unfold Reached
  split
  · exact ⟨List.mem_cons_self, h⟩
  · split
    · refine ⟨List.mem_cons_self, fun other hother => ?_⟩
      rw [List.takeWhile_cons, bne_self_eq_false, if_neg Bool.false_ne_true,
        List.mem_singleton] at hother
      exact hother ▸ h
    · rw [List.count_eq_zero_of_not_mem h]
      exact List.count_pos_iff.mpr List.mem_cons_self

/-- Any other row is reached if the writes after the first reach it. -/
theorem reached_cons_iff {patch : Fields} {id other : String} {before : List String}
    (h : id ∈ before ∨ other ≠ id) (written : List String) :
    Reached patch written (idsUnder patch id before) other ↔
      Reached patch (id :: written) before other := by
  by_cases hkeeps : KeepsId patch
  · -- The ids stay as they are, and writing one of them again meets no further row.
    have hunder : idsUnder patch id before = before := idsUnder_of_idUnder_eq (if_pos hkeeps) before
    rw [hunder, Reached, Reached, if_pos hkeeps, if_pos hkeeps, List.mem_cons]
    refine and_congr_left fun hbefore => (or_iff_right ?_).symm
    exact h.elim (fun hmem heq => hbefore (heq ▸ hmem)) fun hne => hne
  · have hunder : idUnder patch id = writtenId patch := if_neg hkeeps
    rw [Reached, Reached, if_neg hkeeps, if_neg hkeeps]
    by_cases hother : other = writtenId patch
    · rw [if_pos hother, if_pos hother, List.takeWhile_cons]
      by_cases hmem : id ∈ before
      · -- The new id stands above, where the first write has put it.
        refine iff_of_false (fun hreached => ?_) (fun hreached => ?_)
        · refine hreached.2 other List.mem_cons_self ?_
          exact hother ▸ hunder ▸ mem_idsUnder hmem patch
        · by_cases hid : id = other
          · exact hreached.2 other List.mem_cons_self (hid ▸ hmem)
          · rw [if_pos (bne_iff_ne.mpr hid)] at hreached
            exact hreached.2 id (List.mem_cons_of_mem _ List.mem_cons_self) hmem
      · have hne : other ≠ id := h.resolve_left hmem
        rw [idsUnder_of_not_mem hmem, if_pos (bne_iff_ne.mpr hne.symm), List.mem_cons,
          or_iff_right hne]
        simp only [List.mem_cons, forall_eq_or_imp, hmem, not_false_eq_true, true_and]
    · -- If the ids are the same, there is one write of the id less, and one row less above.
      rw [if_neg hother, if_neg hother, List.count_cons]
      by_cases hmem : id ∈ before
      · have hcount := count_idsUnder hmem patch other
        rw [hunder, if_neg (Ne.symm hother)] at hcount
        simp only [beq_iff_eq]
        omega
      · have hne : other ≠ id := h.resolve_left hmem
        rw [idsUnder_of_not_mem hmem, beq_eq_false_iff_ne.mpr hne.symm,
          if_neg Bool.false_ne_true, Nat.add_zero]

end Row

namespace Table

/-- The table, patched at the first row with an id. -/
def patchFirst (id : String) (patch : Fields) (t : Table) : Table :=
  { t with rows := t.rows.modify (t.ids.idxOf id) fun row => row.patch patch }

/-- The table, patched at the rows that an update of rows with the written ids reaches. -/
def patchReached (written : List String) (patch : Fields) (t : Table) : Table :=
  { t with rows := t.rows.mapIdx fun i row =>
      if Row.Reached patch written (t.ids.take i) row.id then row.patch patch else row }

theorem getElem?_ids (t : Table) (i : Nat) : t.ids[i]? = t.rows[i]?.map Row.id :=
  List.getElem?_map

/-- The row that a write of an id meets has the id, and no row with the id stands above it. -/
theorem idxOf_ids_eq_iff {t : Table} {i : Nat} {row : Row} (h : t.rows[i]? = some row) {id : String}
    (hid : id ∈ t.ids) : t.ids.idxOf id = i ↔ id ∉ t.ids.take i ∧ row.id = id := by
  have hat : t.ids[i]? = some row.id := by rw [getElem?_ids, h, Option.map_some]
  rw [List.mem_take_iff_idxOf_lt hid, Nat.not_lt]
  constructor
  · rintro rfl
    rw [List.getElem?_idxOf hid] at hat
    exact ⟨Nat.le_refl _, (Option.some.inj hat).symm⟩
  · rintro ⟨hle, rfl⟩
    -- The id stands at this position, so it is found here at the latest.
    have hmem : row.id ∈ t.ids.take (i + 1) :=
      List.mem_of_getElem? ((List.getElem?_take_of_lt (Nat.lt_succ_self i)).trans hat)
    have hlt := (List.mem_take_iff_idxOf_lt hid).mp hmem
    omega

theorem getElem?_patchFirst {t : Table} {i : Nat} {row : Row} (h : t.rows[i]? = some row)
    {id : String} (hid : id ∈ t.ids) (patch : Fields) :
    (t.patchFirst id patch).rows[i]? = some
      (if id ∉ t.ids.take i ∧ row.id = id then row.patch patch else row) := by
  rw [patchFirst, List.getElem?_modify, h]
  exact congrArg some (if_congr (idxOf_ids_eq_iff h hid) rfl rfl)

theorem ids_patchFirst {id : String} {t : Table} (h : id ∈ t.ids) (patch : Fields) :
    (t.patchFirst id patch).ids = Row.idsUnder patch id t.ids := by
  refine List.ext_getElem? fun i => ?_
  rw [getElem?_ids, patchFirst, List.getElem?_modify, Row.idsUnder, List.getElem?_set]
  split
  · next hi =>
      have hfirst := getElem?_ids t i ▸ hi ▸ List.getElem?_idxOf h
      rcases Option.map_eq_some_iff.mp hfirst with ⟨row, hrow, hid⟩
      rw [if_pos (List.idxOf_lt_length_of_mem h), hrow, ← hid, ← Row.id_patch_eq_idUnder]
      rfl
  · rw [getElem?_ids]
    simp only [Option.map_eq_map, Option.map_id']

theorem getElem?_patchReached {t : Table} {i : Nat} {row : Row} (h : t.rows[i]? = some row)
    (written : List String) (patch : Fields) :
    (t.patchReached written patch).rows[i]? = some
      (if Row.Reached patch written (t.ids.take i) row.id then row.patch patch else row) := by
  rw [patchReached, List.getElem?_mapIdx, h, Option.map_some]

/-- A row whose id is not written is left alone. -/
theorem getElem?_patchReached_of_not_mem {t : Table} {i : Nat} {row : Row}
    (h : t.rows[i]? = some row) {written : List String} (hid : row.id ∉ written) (patch : Fields) :
    (t.patchReached written patch).rows[i]? = some row := by
  rw [getElem?_patchReached h, if_neg fun hreached => hid (Row.mem_of_reached hreached)]

theorem patchReached_nil (patch : Fields) (t : Table) : t.patchReached [] patch = t := by
  have hrows : (t.patchReached [] patch).rows = t.rows := by
    refine List.ext_getElem? fun i => ?_
    cases hrow : t.rows[i]? with
    | none => rw [patchReached, List.getElem?_mapIdx, hrow, Option.map_none]
    | some row => exact getElem?_patchReached_of_not_mem hrow List.not_mem_nil patch
  exact congrArg (fun rows => { t with rows }) hrows

/-- An update is its first write and the update of the other rows. -/
theorem patchReached_cons {id : String} {t : Table} (h : id ∈ t.ids) (patch : Fields)
    (written : List String) :
    (t.patchFirst id patch).patchReached written patch = t.patchReached (id :: written) patch := by
  have hrows : ((t.patchFirst id patch).patchReached written patch).rows =
      (t.patchReached (id :: written) patch).rows := by
    refine List.ext_getElem? fun i => ?_
    cases hrow : t.rows[i]? with
    | none =>
        rw [patchReached, patchReached, List.getElem?_mapIdx, List.getElem?_mapIdx, hrow,
          patchFirst, List.getElem?_modify, hrow]
        rfl
    | some row =>
        have hfirst := getElem?_patchFirst hrow h patch
        rw [getElem?_patchReached hrow]
        by_cases hmet : id ∉ t.ids.take i ∧ row.id = id
        · -- This row is written first, and whether it is met again makes no difference.
          rw [if_pos hmet] at hfirst
          rw [getElem?_patchReached hfirst, Row.patch_patch, ite_self, hmet.2,
            if_pos (Row.reached_cons_self hmet.1 patch written)]
        · rw [if_neg hmet] at hfirst
          rw [not_and_or, not_not] at hmet
          rw [getElem?_patchReached hfirst, ids_patchFirst h, Row.take_idsUnder]
          simp only [Row.reached_cons_iff hmet]
  exact congrArg (fun rows => { t with rows }) hrows

/-- A row that does not share its id is reached if the id is written, unless it is the one that a
patch gives to others. -/
theorem getElem?_patchReached_of_unshared {t : Table} {i : Nat} {row : Row}
    (h : t.rows[i]? = some row)
    (hunshared : ∀ j other, t.rows[j]? = some other → other.id = row.id → j = i)
    (written : List String) {patch : Fields}
    (hpatch : Row.KeepsId patch ∨ row.id ≠ Row.writtenId patch) :
    (t.patchReached written patch).rows[i]? =
      some (if row.id ∈ written then row.patch patch else row) := by
  by_cases hid : row.id ∈ written
  · -- A row above with the same id would be this row, which is not above itself.
    have hbefore : row.id ∉ t.ids.take i := by
      intro hmem
      rcases List.mem_take_iff_getElem.mp hmem with ⟨j, hj, hat⟩
      have hlt : j < t.ids.length := Nat.lt_of_lt_of_le hj (Nat.min_le_right _ _)
      have hat' : t.ids[j]? = some row.id := hat ▸ List.getElem?_eq_getElem hlt
      rcases Option.map_eq_some_iff.mp (getElem?_ids t j ▸ hat') with ⟨other, hother, hsame⟩
      have hji := hunshared j other hother hsame
      have hji' : j < i := Nat.lt_of_lt_of_le hj (Nat.min_le_left _ _)
      omega
    rw [getElem?_patchReached h, if_pos hid, if_pos (Row.reached_of_not_mem hid hbefore hpatch)]
  · rw [getElem?_patchReached_of_not_mem h hid, if_neg hid]

/-- A deletion leaves the rows whose id is not among the ids. -/
theorem mem_dropRows_iff {t : Table} {row : Row} (h : row ∈ t.rows) (ids : List String) :
    row ∈ (t.dropRows ids).rows ↔ row.id ∉ ids := by
  rw [dropRows, List.mem_filter, Bool.not_eq_true', Bool.eq_false_iff, ne_eq,
    List.contains_iff_mem]
  exact and_iff_right h

end Table

/-! ## Writes through selections -/

namespace Store

/-- A write of an id patches the first row that has it. -/
theorem patchFirst?_eq_modify {id : String} {patch : Fields} {rows : List Row}
    (h : id ∈ rows.map Row.id) : patchFirst? id patch rows =
      some (rows.modify ((rows.map Row.id).idxOf id) fun row => row.patch patch) := by
  induction rows with
  | nil => exact absurd h List.not_mem_nil
  | cons row rest ih =>
      rw [List.map_cons] at h ⊢
      rw [patchFirst?]
      by_cases hrow : row.id = id
      · -- The first row has the id, and it is the one that is written.
        rw [if_pos hrow, List.idxOf_cons_eq _ hrow, List.modify_zero_cons]
      · have hrest := (List.mem_cons.mp h).resolve_left (Ne.symm hrow)
        rw [if_neg hrow, ih hrest, List.idxOf_cons_ne _ hrow, Option.map_some,
          List.modify_succ_cons]

theorem updateRow_eq_patchFirst {store : Store} {name id : String} {t : Table}
    (ht : store.table? name = some t) (hid : id ∈ t.ids) (patch : Fields) :
    store.updateRow name id patch = .ok (store.insert (t.patchFirst id patch)) := by
  rw [updateRow, ht]
  dsimp only
  rw [patchFirst?_eq_modify hid]
  rfl

end Store

namespace Selection

/-- An update of rows of which the table has as many for each id patches the rows that it
reaches. -/
theorem updateRows_eq_reached {store : Store} {name : String} {t : Table} {rows : List Row}
    (ht : store.table? name = some t)
    (hcount : ∀ id, (rows.map Row.id).count id ≤ t.ids.count id) (patch : Fields) :
    ∃ after, updateRows store name patch rows =
        (after, rows.map fun row => row.patch patch, none) ∧
      after.table? name = some (t.patchReached (rows.map Row.id) patch) ∧
      ∀ other, other ≠ name → after.table? other = store.table? other := by
  -- The induction is on the selection, and the table is what the writes so far have left of it.
  induction rows generalizing store t with
  | nil => exact ⟨store, rfl, ht.trans (congrArg some (t.patchReached_nil patch).symm),
      fun other _ => rfl⟩
  | cons row rest ih =>
      have hid : row.id ∈ t.ids := by
        refine List.count_pos_iff.mp (Nat.lt_of_lt_of_le ?_ (hcount row.id))
        exact List.count_pos_iff.mpr List.mem_cons_self
      have hname : (t.patchFirst row.id patch).name = name := by
        rw [Table.patchFirst, Store.name_of_table? ht]
      have hnext : (store.insert (t.patchFirst row.id patch)).table? name =
          some (t.patchFirst row.id patch) := by
        rw [Store.table?_insert, if_pos hname.symm]
      -- The table loses no id but the one that was written.
      have hrest : ∀ id, (rest.map Row.id).count id ≤ (t.patchFirst row.id patch).ids.count id := by
        intro id
        have hold := hcount id
        have hnew := Row.count_idsUnder hid patch id
        rw [List.map_cons, List.count_cons] at hold
        simp only [beq_iff_eq] at hold
        rw [Table.ids_patchFirst hid]
        omega
      rcases ih hnext hrest with ⟨after, hafter, htable, hothers⟩
      refine ⟨after, ?_, ?_, fun other hother => ?_⟩
      · rw [updateRows, Store.updateRow_eq_patchFirst ht hid]
        dsimp only
        rw [hafter, List.map_cons]
      · rw [htable, Table.patchReached_cons hid, List.map_cons]
      · rw [hothers other hother, Store.table?_insert, hname, if_neg hother]

/-- A deletion from a table that is there takes the rows with the ids of the selection. -/
theorem delete_eq_dropRows {s : Selection} {store : Store} {t : Table}
    (ht : store.table? s.tableName = some t) :
    ∃ after, s.delete store = .ok (after, { s with rows := [] }, s.rows.length) ∧
      after.table? s.tableName = some (t.dropRows s.ids) ∧
      ∀ other, other ≠ s.tableName → after.table? other = store.table? other := by
  -- Nothing is deleted for a selection without rows, and else the table is there.
  have hok : ∃ after emptied, s.delete store = .ok (after, emptied, s.rows.length) := by
    rw [delete, Store.deleteRows, ht]
    split
    · next hempty =>
        rw [List.isEmpty_iff.mp hempty]
        exact ⟨store, s, rfl⟩
    · exact ⟨_, _, rfl⟩
  rcases hok with ⟨after, emptied, hdelete⟩
  -- Either way the table is what is left of it, and the rest of the store is untouched.
  rcases delete_eq_emptied hdelete with ⟨rfl, htables⟩
  refine ⟨after, hdelete, ?_, fun other hother => ?_⟩
  · rw [htables, Store.map_onTable_self, ht, Option.map_some]
  · rw [htables, Store.map_onTable_of_ne store hother]

end Selection

/-! ## Fresh selections -/

namespace Condition

variable {α : Type}

theorem newcomers_sublist (key : α → String) (seen : List String) (entries : List α) :
    (newcomers key seen entries).Sublist entries := by
  induction entries generalizing seen with
  | nil => exact List.Sublist.refl []
  | cons a rest ih =>
      rw [newcomers]
      split
      · exact (ih seen).cons a
      · exact (ih (key a :: seen)).cons_cons a

/-- A merge has no key more often than both of its lists may have it. -/
theorem count_map_mergeBy_le (joint : Conjunction) {key : α → String} {left right : List α}
    {k : String} {bound : Nat} (hleft : (left.map key).count k ≤ bound)
    (hright : (right.map key).count k ≤ bound) :
    ((mergeBy joint key left right).map key).count k ≤ bound := by
  cases joint with
  | and => exact Nat.le_trans ((List.filter_sublist.map key).count_le k) hleft
  | or =>
      rw [mergeBy, union, List.map_append, List.count_append]
      -- The newcomers have no key that the left list has.
      by_cases hk : k ∈ left.map key
      · have hnone : k ∉ (newcomers key (left.map key) right).map key := by
          intro hmem
          rcases List.mem_map.mp hmem with ⟨a, ha, rfl⟩
          exact (mem_newcomers ha).2 hk
        rwa [List.count_eq_zero_of_not_mem hnone, Nat.add_zero]
      · rw [List.count_eq_zero_of_not_mem hk, Nat.zero_add]
        exact Nat.le_trans (((newcomers_sublist key _ right).map key).count_le k) hright

/-- A condition selects no more rows of an id than there are. -/
theorem count_ids_select {row : α → Row} {columns : List Column} {condition : Condition}
    {entries found : List α} (h : select row columns condition entries = .ok found) (id : String) :
    (found.map fun entry => (row entry).id).count id ≤
      (entries.map fun entry => (row entry).id).count id := by
  refine select_induction (motive := fun _ found =>
    (found.map fun entry => (row entry).id).count id ≤
      (entries.map fun entry => (row entry).id).count id) ?_ ?_ h
  · intro l column input _ _
    exact (List.filter_sublist.map _).count_le id
  · intro joint left right first second hfirst hsecond
    exact count_map_mergeBy_le joint hfirst hsecond

end Condition

namespace Selection

/-- A fresh selection has rows of its table, and no more of an id than the table has. -/
theorem count_ids_matching {columns : List Column} {rows found : List Row} {conditions : String}
    (h : matching columns rows conditions = .ok found) :
    found ⊆ rows ∧ ∀ id, (found.map Row.id).count id ≤ (rows.map Row.id).count id := by
  rcases eq_or_filterRows_of_matching h with rfl | ⟨condition, hcondition⟩
  · exact ⟨List.Subset.refl found, fun id => Nat.le_refl _⟩
  · exact ⟨Condition.select_subset hcondition, Condition.count_ids_select hcondition⟩

/-- What writes through a fresh selection do, whatever the ids of the rows are. Neither write is
refused, and neither touches another table. A deletion takes the rows that have the id of a selected
row, and so each selected row. An update patches the rows that it reaches, each once and in its
place. A row whose id no selected row has is neither deleted nor patched. A row that does not share
its id is deleted if and only if it was selected; and it is patched if and only if it was selected,
unless the patch writes its id. -/
theorem writes_by_id {store : Store} {name conditions : String} {s : Selection}
    (h : store.select name conditions = .ok s) :
    ∃ t, store.table? name = some t ∧ s.rows ⊆ t.rows ∧
      (∃ after, s.delete store = .ok (after, { s with rows := [] }, s.rows.length) ∧
        after.table? name = some (t.dropRows s.ids) ∧
        ∀ other, other ≠ name → after.table? other = store.table? other) ∧
      (∀ patch, ∃ after, s.update store patch =
          (after, { s with rows := s.rows.map fun row => row.patch patch }, none) ∧
        after.table? name = some (t.patchReached s.ids patch) ∧
        ∀ other, other ≠ name → after.table? other = store.table? other) ∧
      ∀ (i : Nat) (row : Row), t.rows[i]? = some row →
        (row ∈ (t.dropRows s.ids).rows ↔ ∀ selected ∈ s.rows, selected.id ≠ row.id) ∧
        ((∀ selected ∈ s.rows, selected.id ≠ row.id) → ∀ patch,
          (t.patchReached s.ids patch).rows[i]? = some row) ∧
        ((∀ (j : Nat) (other : Row), t.rows[j]? = some other → other.id = row.id → j = i) →
          (row ∈ (t.dropRows s.ids).rows ↔ row ∉ s.rows) ∧
          ∀ patch, Row.KeepsId patch ∨ row.id ≠ Row.writtenId patch →
            (t.patchReached s.ids patch).rows[i]? =
              some (if row ∈ s.rows then row.patch patch else row)) := by
  -- The rows are found in the table, and an id is not found more often than it is there.
  rcases Store.exists_of_select h with ⟨t, found, ht, hfound, rfl⟩
  rcases count_ids_matching hfound with ⟨hsubset, hcount⟩
  refine ⟨t, ht, hsubset, delete_eq_dropRows ht, fun patch => ?_, fun i row hrow => ?_⟩
  · -- One write after another by id gives the rows that the writes reach.
    rcases updateRows_eq_reached ht hcount patch with ⟨after, hafter, htable, hothers⟩
    refine ⟨after, ?_, htable, hothers⟩
    rw [update, hafter]
  · have hmem : row ∈ t.rows := List.mem_of_getElem? hrow
    have hids : row.id ∉ found.map Row.id ↔ ∀ selected ∈ found, selected.id ≠ row.id := by
      rw [List.mem_map, not_exists]
      simp only [not_and, ne_eq]
    refine ⟨(t.mem_dropRows_iff hmem _).trans hids, fun hnone patch => ?_, fun hunshared => ?_⟩
    · exact Table.getElem?_patchReached_of_not_mem hrow (hids.mpr hnone) patch
    · -- The selected row with the id can only be this one.
      have hselected : row.id ∈ found.map Row.id ↔ row ∈ found := by
        refine ⟨fun hid => ?_, List.mem_map_of_mem⟩
        rcases List.mem_map.mp hid with ⟨other, hother, hsame⟩
        rcases List.mem_iff_getElem?.mp (hsubset hother) with ⟨j, hj⟩
        rw [hunshared j other hj hsame, hrow] at hj
        exact Option.some.inj hj ▸ hother
      refine ⟨(t.mem_dropRows_iff hmem _).trans (not_congr hselected), fun patch hpatch => ?_⟩
      rw [Table.getElem?_patchReached_of_unshared hrow hunshared _ hpatch]
      exact congrArg some (if_congr hselected rfl rfl)

/-- Of the selected rows the first has a number for an id, and the second shares its id with the
row below it. The row above the first has no id either, and is patched in its place. -/
theorem writes_by_id_shared :
    let columns : List Column := [⟨"0000", "Name", .text, none⟩]
    let plain (name : String) : Row := ⟨[("Name", .string name)]⟩
    let numbered : Row := ⟨[("Name", .string "b"), ("_id", .number (.int 7))]⟩
    let known (name id : String) : Row := ⟨[("Name", .string name), ("_id", .string id)]⟩
    let store : Store := ⟨[⟨"Fruit", columns, [plain "a", numbered, known "b" "r1", known "c" "r1",
      known "b" "r2", known "c" "r3"]⟩, ⟨"Other", columns, [plain "b"]⟩]⟩
    let s : Selection :=
      ⟨"Fruit", columns, [numbered, known "b" "r1", known "b" "r2"], "Name = b"⟩
    store.select "Fruit" "Name = b" = .ok s ∧
      (∃ after, s.delete store = .ok (after, { s with rows := [] }, 3) ∧
        after.table? "Fruit" = some ⟨"Fruit", columns, [known "c" "r3"]⟩ ∧
        after.table? "Other" = some ⟨"Other", columns, [plain "b"]⟩) ∧
      ∃ after rows, s.update store [("Name", .string "d")] = (after, { s with rows }, none) ∧
        after.table? "Fruit" = some ⟨"Fruit", columns, [plain "d", numbered, known "d" "r1",
          known "c" "r1", known "d" "r2", known "c" "r3"]⟩ := by
  intro columns plain numbered known store s
  have h : store.select "Fruit" "Name = b" = .ok s := by decide +kernel
  rcases writes_by_id h with ⟨t, ht, -, ⟨deleted, hdelete, hleft, hothers⟩, hupdate, -⟩
  rcases hupdate [("Name", .string "d")] with ⟨updated, hpatched, hreached, -⟩
  have htable : t = ⟨"Fruit", columns, [plain "a", numbered, known "b" "r1", known "c" "r1",
      known "b" "r2", known "c" "r3"]⟩ := by
    refine (Option.some.inj (ht.symm.trans ?_))
    decide
  subst htable
  refine ⟨h, ⟨deleted, hdelete, hleft.trans (by decide), ?_⟩, updated, _, hpatched, ?_⟩
  · exact (hothers "Other" (by decide)).trans (by decide)
  · exact hreached.trans (by decide)

/-- Of two rows without ids the second is selected: a deletion takes both, and an update patches the
first. With distinct ids too, an update that writes the id of the second row to the first does not
find the second any more. -/
theorem not_writes_selected :
    let columns : List Column := [⟨"0000", "Name", .text, none⟩]
    let plain (name : String) : Row := ⟨[("Name", .string name)]⟩
    let known (name id : String) : Row := ⟨[("Name", .string name), ("_id", .string id)]⟩
    let store (rows : List Row) : Store := ⟨[⟨"Fruit", columns, rows⟩]⟩
    let one : Selection := ⟨"Fruit", columns, [plain "b"], "Name = b"⟩
    let all : Selection := ⟨"Fruit", columns, [known "a" "r1", known "b" "r2"], ""⟩
    (store [plain "a", plain "b"]).select "Fruit" "Name = b" = .ok one ∧
      one.delete (store [plain "a", plain "b"]) = .ok (store [], { one with rows := [] }, 1) ∧
      one.update (store [plain "a", plain "b"]) [("Name", .string "c")] =
        (store [plain "c", plain "b"], { one with rows := [plain "c"] }, none) ∧
      (store [known "a" "r1", known "b" "r2"]).select "Fruit" "" = .ok all ∧
      all.update (store [known "a" "r1", known "b" "r2"])
          [("Name", .string "c"), ("_id", .string "r2")] =
        (store [known "c" "r2", known "b" "r2"],
          { all with rows := [known "c" "r2", known "c" "r2"] }, none) := by
  decide +kernel

end Selection

end GridQuery
