import GridQuery.Proofs.ReadableRows
import Mathlib.Data.List.Induction

/-!
# The Header of a Readable Row

Whether the readable form of a change still says which row of which table changed and how.

The header and the cells stand in one record. The header is put there first, and the cells are
written over it one after the other, under names that users chose for their columns. Nothing is
assumed about these names here: a column may be called as a field of the header is, several columns
may have one name, and a cell belongs to the first of the columns that have its key.

What is found under a name is therefore what the last cell that is written there reads as, and the
field of the header only if no cell is written there. A cell that says nothing is not written, and
neither is one that belongs to no column, so a column that is called `_id` does no harm as long as
the change has no readable cell for it. When it has one, the id of the row is gone, as nothing else
in the readable form repeats it.

## Main definitions

* `Change.Writes`, `Change.WritesLast`: The value that a cell is written as under a name, and that
  of the last cell that is written there.

## Theorems

* `Change.lookup_fields_eq_some_iff`: What is found under a name.
* `Change.exists_writesLast_iff`: If any cell is written under a name, there is a last one.
* `Change.lookup_fields_of_writes`: Under the name of a column that no other column has.
* `Change.readable_header`: When the header is that of the change.
* `Change.not_readable_header`: An id that is lost.
-/

namespace GridQuery

namespace Change

variable {columns : List Column} {cells : Fields} {cell : String × Json} {name : String}
  {value : Json}

/-- A cell is written under a name as a value: the first column that has its key has the name, and
the cell reads as the value. -/
def Writes (columns : List Column) (cell : String × Json) (name : String) (value : Json) : Prop :=
  ∃ column, columns.find? (fun column => column.key == cell.1) = some column ∧
    column.name = name ∧ column.Reads cell.2 value

/-- The last of the cells that are written under a name is written as a value. -/
def WritesLast (columns : List Column) (cells : Fields) (name : String) (value : Json) : Prop :=
  ∃ before cell after, cells = before ++ cell :: after ∧ Writes columns cell name value ∧
    ∀ later ∈ after, ∀ other, ¬Writes columns later name other

/-- The field that a cell is written as, if it is written. -/
def written? (columns : List Column) (cell : String × Json) : Option (String × Json) := do
  let column ← columns.find? fun column => column.key == cell.1
  let value ← column.readable? cell.2
  some (column.name, value)

theorem written?_eq_some_iff :
    written? columns cell = some (name, value) ↔ Writes columns cell name value := by
  simp only [written?, Writes, Option.bind_eq_bind, Option.bind_eq_some_iff,
    Column.readable?_eq_some_iff, Option.some.injEq, Prod.mk.injEq]
  constructor
  · rintro ⟨column, hcolumn, written, hreads, hname, rfl⟩
    exact ⟨column, hcolumn, hname, hreads⟩
  · rintro ⟨column, hcolumn, hname, hreads⟩
    exact ⟨column, hcolumn, value, hreads, hname, rfl⟩

/-! ## The last cell under a name -/

theorem not_writesLast_nil : ¬WritesLast columns [] name value := by
  rintro ⟨before, cell, after, hcells, -⟩
  exact List.append_ne_nil_of_right_ne_nil before (List.cons_ne_nil cell after) hcells.symm

/-- A further cell is the last one if it is written under the name, and otherwise it does not
matter. -/
theorem writesLast_append_singleton : WritesLast columns (cells ++ [cell]) name value ↔
    Writes columns cell name value ∨
      (∀ other, ¬Writes columns cell name other) ∧ WritesLast columns cells name value := by
  constructor
  · rintro ⟨before, first, after, hcells, hfirst, hafter⟩
    -- Nothing is behind the last writing cell, or this cell is and does not write.
    rcases List.eq_nil_or_concat after with rfl | ⟨middle, last, rfl⟩
    · obtain rfl : cell = first := List.singleton_inj.mp (List.append_inj_right' hcells rfl)
      exact .inl hfirst
    · rw [List.concat_eq_append, ← List.cons_append, ← List.append_assoc] at hcells
      rw [List.concat_eq_append] at hafter
      have hlast : cell = last := List.singleton_inj.mp (List.append_inj_right' hcells rfl)
      refine .inr ⟨hlast ▸ hafter last (List.mem_append_right middle List.mem_cons_self), before,
        first, middle, List.append_inj_left' hcells rfl, hfirst, fun later hlater => ?_⟩
      exact hafter later (List.mem_append_left [last] hlater)
  · rintro (hcell | ⟨hnone, before, first, after, rfl, hfirst, hafter⟩)
    · -- The last cell writes, and what the others wrote is gone.
      exact ⟨cells, cell, [], rfl, hcell, fun later hlater => absurd hlater List.not_mem_nil⟩
    · refine ⟨before, first, after ++ [cell], List.append_assoc _ _ _, hfirst, ?_⟩
      intro later hlater
      rcases List.mem_append.mp hlater with hlater | hlater
      · exact hafter later hlater
      · exact List.mem_singleton.mp hlater ▸ hnone

/-- Written one over the other, the last one is found. -/
theorem lookup_reverse_filterMap_eq_some_iff :
    (cells.filterMap (written? columns)).reverse.lookup name = some value ↔
      WritesLast columns cells name value := by
  induction cells using List.reverseRecOn with
  | nil => exact iff_of_false nofun not_writesLast_nil
  | append_singleton cells cell ih =>
      rw [writesLast_append_singleton, ← ih, List.filterMap_append, List.reverse_append]
      -- Taken from the end: the last cell writes the name, writes another one or writes nothing.
      cases hwritten : written? columns cell with
      | none =>
          have hnone : ∀ other, ¬Writes columns cell name other := fun other hother =>
            nomatch hwritten.symm.trans (written?_eq_some_iff.mpr hother)
          simp only [List.filterMap_cons, hwritten, List.filterMap_nil, List.reverse_nil,
            List.nil_append, hnone, not_false_eq_true, implies_true, true_and, false_or]
      | some field =>
          obtain ⟨under, found⟩ := field
          have hcell : ∀ {other}, Writes columns cell name other ↔
              under = name ∧ found = other := by
            intro other
            rw [← written?_eq_some_iff, hwritten, Option.some.injEq, Prod.mk.injEq]
          simp only [List.filterMap_cons, hwritten, List.filterMap_nil, List.reverse_singleton,
            List.singleton_append, Fields.lookup_cons, hcell]
          by_cases hunder : name = under
          · simp only [hunder, if_true, true_and, Option.some.injEq, forall_eq', false_and,
              or_false]
          · simp only [hunder, Ne.symm hunder, if_false, false_and, not_false_eq_true,
              implies_true, true_and, false_or]

/-- If any cell is written under a name, there is a last one. -/
theorem exists_writesLast_iff : (∃ value, WritesLast columns cells name value) ↔
    ∃ cell ∈ cells, ∃ value, Writes columns cell name value := by
  simp only [← lookup_reverse_filterMap_eq_some_iff, ← Fields.mem_keys_iff, List.map_reverse,
    List.mem_reverse, List.mem_map, List.mem_filterMap, ← written?_eq_some_iff]
  constructor
  · rintro ⟨⟨under, value⟩, ⟨cell, hcell, hwritten⟩, rfl⟩
    exact ⟨cell, hcell, value, hwritten⟩
  · rintro ⟨cell, hcell, value, hwritten⟩
    exact ⟨(name, value), ⟨cell, hcell, hwritten⟩, rfl⟩

/-! ## What is found under a name -/

variable {c : Change}

/-- What the last cell is written as, or else what the header has. -/
theorem lookup_fields_eq_some_iff (table : String) :
    (c.fields table columns).lookup name = some value ↔ WritesLast columns c.cells name value ∨
      (∀ other, ¬WritesLast columns c.cells name other) ∧
        (c.header table).lookup name = some value := by
  have hcells : c.readableCells columns = c.cells.filterMap (written? columns) := rfl
  simp only [← lookup_reverse_filterMap_eq_some_iff, ← hcells, fields, Fields.lookup_overlay]
  cases (c.readableCells columns).reverse.lookup name with
  | none => simp only [Option.none_or, reduceCtorEq, not_false_eq_true, implies_true, true_and,
      false_or]
  | some written => simp only [Option.some_or, Option.some.injEq, forall_eq', false_and, or_false]

/-- Under the name of a column stands what its cell reads as, if no cell of another key is written
there; the column has to be the first one with its key. -/
theorem lookup_fields_of_writes {column : Column} {raw : Json}
    (hcolumn : columns.find? (fun other => other.key == column.key) = some column)
    (hname : ∀ other ∈ columns, other.name = column.name → other.key = column.key)
    (hcells : (c.cells.map Prod.fst).Nodup) (hraw : c.cells.lookup column.key = some raw)
    (hreads : column.Reads raw value) (table : String) :
    (c.fields table columns).lookup column.name = some value := by
  rcases List.lookup_eq_some_iff.mp hraw with ⟨before, after, hsplit, -⟩
  refine (lookup_fields_eq_some_iff table).mpr (.inl ⟨before, (column.key, raw), after, hsplit,
    ⟨column, hcolumn, rfl, hreads⟩, ?_⟩)
  rintro later hlater written ⟨other, hother, heq, -⟩
  -- The later cell has the key of the column too, and no key is there twice.
  have hfound := List.find?_some hother
  have hkey : other.key = later.1 := beq_iff_eq.mp hfound
  rw [hname other (List.mem_of_find?_eq_some hother) heq] at hkey
  rw [hsplit, List.map_append, List.map_cons] at hcells
  exact (List.nodup_cons.mp (List.nodup_append.mp hcells).2.1).1
    (List.mem_map.mpr ⟨later, hlater, hkey.symm⟩)

/-- Each field of the header is that of the change if and only if the last cell that is written
under its name, if there is any, is written as this very value. If there is one, what it is written
as is found there. -/
theorem readable_header {message : Json} {kind : ChangeKind} {cells : Fields}
    (hkind : message.field? "op_type" = some (.string kind.name))
    (hcells : message.field? kind.cellsKey = some (.object cells)) (table : String)
    (columns : List Column) :
    ∃ fields, readable message table columns = .object fields ∧
      ∀ name value, (name, value) ∈ [("_id", (message.field? "row_id").getD .null),
          ("op_type", .string kind.name), ("table_name", .string table)] →
        (fields.lookup name = some value ↔
          ∀ written, WritesLast columns cells name written → written = value) ∧
        ((∃ cell ∈ cells, ∃ written, Writes columns cell name written) → ∃ written,
          WritesLast columns cells name written ∧ fields.lookup name = some written) := by
  set change : Change := ⟨kind, (message.field? "row_id").getD .null, cells⟩
  refine ⟨change.fields table columns, readable_eq hkind hcells table columns, ?_⟩
  intro name value hfield
  have hheader : (change.header table).lookup name = some value := by
    refine (Fields.lookup_eq_some_iff_mem ?_).mpr hfield
    exact (pairwise_header change table).imp fun hlt => ne_of_lt hlt
  -- Whatever is written last under the name is what the record has.
  have hlast : ∀ written, WritesLast columns cells name written →
      (change.fields table columns).lookup name = some written := fun written h =>
    (lookup_fields_eq_some_iff table).mpr (.inl h)
  refine ⟨⟨fun hvalue written h => ?_, fun hall => ?_⟩, fun hany => ?_⟩
  · exact Option.some.inj ((hlast written h).symm.trans hvalue)
  · by_cases hany : ∃ written, WritesLast columns cells name written
    · rcases hany with ⟨written, h⟩
      exact hall written h ▸ hlast written h
    · exact (lookup_fields_eq_some_iff table).mpr (.inr ⟨not_exists.mp hany, hheader⟩)
  · -- If any cell writes the name, one of them is the last to do so.
    rcases exists_writesLast_iff.mpr hany with ⟨written, h⟩
    exact ⟨written, h, hlast written h⟩

/-- Two columns are called as fields of the header are. The change has no cell of the one, and that
of the other, an empty text, is what is found instead of the id. -/
theorem readable_header_shared :
    let columns : List Column := [⟨"k1", "_id", .text, none⟩, ⟨"k2", "op_type", .text, none⟩,
      ⟨"k3", "Name", .text, none⟩]
    let cells : Fields := [("k1", .string ""), ("k3", .string "y")]
    let message : Json := .object [("op_type", .string "modify_row"), ("row_id", .string "r1"),
      ("updated", .object cells)]
    message.field? "op_type" = some (.string ChangeKind.modify.name) ∧
      message.field? ChangeKind.modify.cellsKey = some (.object cells) ∧
      ∃ fields, readable message "Table1" columns = .object fields ∧
        fields.lookup "_id" = some (.string "") ∧
        fields.lookup "op_type" = some (.string "modify_row") := by
  intro columns cells message
  have hkind : message.field? "op_type" = some (.string ChangeKind.modify.name) := rfl
  have hcells : message.field? ChangeKind.modify.cellsKey = some (.object cells) := rfl
  rcases readable_header hkind hcells "Table1" columns with ⟨fields, hreadable, hheader⟩
  have hfound : ∀ name written, WritesLast columns cells name written ↔
      (cells.filterMap (written? columns)).reverse.lookup name = some written := fun _ _ =>
    lookup_reverse_filterMap_eq_some_iff.symm
  rcases (hheader "_id" (.string "r1") (by decide)).2
    ⟨("k1", .string ""), by decide, .string "", written?_eq_some_iff.mp rfl⟩ with
    ⟨written, hlast, hid⟩
  obtain rfl : Json.string "" = written := Option.some.inj ((hfound "_id" written).mp hlast)
  refine ⟨hkind, hcells, fields, hreadable, hid, ?_⟩
  refine (hheader "op_type" (.string "modify_row") (by decide)).1.mpr fun written h => ?_
  exact nomatch (hfound "op_type" written).mp h

/-- The id of a row is lost to the cell of a column that is called as it is. -/
theorem not_readable_header :
    let column : Column := ⟨"k1", "_id", .text, none⟩
    let message : Json := .object [("op_type", .string "insert_row"),
      ("row_data", .object [("k1", .string "x")]), ("row_id", .string "r1")]
    message.field? "row_id" = some (.string "r1") ∧
      readable message "Table1" [column] = .object [("_id", .string "x"),
        ("op_type", .string "insert_row"), ("table_name", .string "Table1")] := by
  intro column message
  exact ⟨rfl, by decide +kernel⟩

end Change

end GridQuery
