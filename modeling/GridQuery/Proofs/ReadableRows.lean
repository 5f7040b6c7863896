import GridQuery.Cell.Compare
import GridQuery.Proofs.Records
import GridQuery.Table.Change

/-!
# Readable Rows

What stands in the readable form of a change, and under which names.

The readable cells are written over a header, one after the other, under names that users chose for
their columns. Nothing is lost or mixed up in that if the columns have different keys and different
names: then a name is that of one column, the column has one key, and there is one cell under the
key, so that no two cells are written to one place. What is found under the name of a column is
therefore a function of its own cell alone, and the order in which columns are looked through does
not matter. The header is left as it is if no column has one of its names.

What a cell reads as is said by a relation, one case for each way of reading, and a cell that reads
as nothing is one of a short list. The two are told apart by the kind of the column and by what the
cell is, and between them they leave no cell out.

Of a long text only the text of an object is kept. A long text may be stored as a string too, and
comparisons of cells see its text; but it reads as the empty text here, as all cells of the column
do that are no objects with a text.

## Main definitions

* `Column.Names`: A value and the name of the option whose id it is.
* `Column.Reads`, `Column.Drops`: What a cell reads as, and the cells that say nothing.
* `Change.headerNames`: The names above the cells.

## Theorems

* `Fields.lookup_eq_some_iff_mem`, `Fields.mem_keys_overlay`: Fields whose keys are there once.
* `Column.names_optionName`, `Column.Names.eq_optionName`: The names of options.
* `Column.exists_reads_or_drops`: Every cell reads as something or says nothing.
* `Column.readable?_eq_some_iff`, `Column.readable?_eq_none_iff`: The reader does what is said.
* `Column.find?_key_perm`: Columns with different keys are found in any order.
* `Change.lookup_readableCells`: Under the name of a column stands what its own cell reads as.
* `Change.readable_exact`: The readable form of a message.
* `Change.not_readable_longText`: A text that is lost.
-/

namespace GridQuery

/-! ## Fields -/

namespace Fields

variable {fields : Fields} {key : String} {value : Json}

theorem mem_keys_iff : key ∈ fields.map Prod.fst ↔ ∃ value, fields.lookup key = some value := by
  rw [← Option.isSome_iff_exists, List.lookup_isSome_iff, List.mem_map]
  refine exists_congr fun field => and_congr_right fun _ => ?_
  rw [beq_iff_eq, eq_comm]

theorem mem_of_lookup (h : fields.lookup key = some value) : (key, value) ∈ fields := by
  rcases List.lookup_eq_some_iff.mp h with ⟨before, after, rfl, -⟩
  exact List.mem_append_right before List.mem_cons_self

/-- A field whose key is there once is found. -/
theorem lookup_eq_some_iff_mem (h : (fields.map Prod.fst).Nodup) :
    fields.lookup key = some value ↔ (key, value) ∈ fields := by
  refine ⟨mem_of_lookup, fun hmem => ?_⟩
  rcases mem_keys_iff.mp (List.mem_map_of_mem hmem) with ⟨other, hother⟩
  have heq := List.inj_on_of_nodup_map h (mem_of_lookup hother) hmem rfl
  rw [hother, (Prod.mk.inj heq).2]

theorem lookup_reverse (h : (fields.map Prod.fst).Nodup) (key : String) :
    fields.reverse.lookup key = fields.lookup key := by
  have hreverse : (fields.reverse.map Prod.fst).Nodup := by
    rwa [List.map_reverse, List.nodup_reverse]
  ext value
  rw [lookup_eq_some_iff_mem hreverse, lookup_eq_some_iff_mem h, List.mem_reverse]

/-- Every key that is there or is written is there after writing. -/
theorem mem_keys_overlay {written : Fields} : key ∈ (overlay fields written).map Prod.fst ↔
    key ∈ fields.map Prod.fst ∨ key ∈ written.map Prod.fst := by
  have hreverse : key ∈ written.map Prod.fst ↔ key ∈ written.reverse.map Prod.fst := by
    rw [List.map_reverse, List.mem_reverse]
  rw [hreverse, mem_keys_iff, mem_keys_iff, mem_keys_iff, lookup_overlay]
  simp only [← Option.isSome_iff_exists, Option.isSome_or, Bool.or_eq_true, or_comm]

end Fields

/-! ## Cells -/

/-- The cell holds something. -/
def Json.Filled (cell : Json) : Prop :=
  cell ∉ [.null, .string "", .array []]

theorem Json.isFilled_iff {cell : Json} : cell.isFilled = true ↔ cell.Filled := by
  match cell with
  | .null | .bool _ | .number _ | .object _ => simp [isFilled, Filled]
  | .string s => simp [isFilled, Filled]
  | .array items => simp [isFilled, Filled]

theorem Json.object_of_field? {value field : Json} {key : String}
    (h : value.field? key = some field) : ∃ fields, value = .object fields ∧
      fields.lookup key = some field := by
  cases value with
  | object fields => exact ⟨fields, rfl, h⟩
  | _ => exact nomatch h

namespace Column

/-- A value and the name of the option whose id it is; the first option with an id has it. -/
inductive Names (c : Column) : Json → Json → Prop
  | option {before after : List SelectOption} {o : SelectOption}
    (hoptions : c.options = before ++ o :: after) (hfirst : ∀ p ∈ before, p.id ≠ o.id) :
    Names c (.string o.id) (.string o.name)
  | unknown {id : Json} (hid : ∀ o ∈ c.options, id ≠ .string o.id) : Names c id .null

/-- A cell and what it reads as. A select cell that is not empty reads as names; a long text as its
text, which is empty where the cell is no object with a text; and all other cells as they are. -/
inductive Reads (c : Column) : Json → Json → Prop
  | option {id name : Json} (hkind : c.kind = .singleSelect) (hid : id.Filled)
    (hoptions : c.options ≠ []) (hname : c.Names id name) : Reads c id name
  | options {ids names : List Json} (hkind : c.kind = .multipleSelect) (hids : ids ≠ [])
    (hoptions : c.options ≠ []) (hnames : List.Forall₂ c.Names ids names) :
    Reads c (.array ids) (.array names)
  | text {fields : Fields} {text : Json} (hkind : c.kind = .longText)
    (htext : fields.lookup "text" = some text) : Reads c (.object fields) text
  | noText {cell : Json} (hkind : c.kind = .longText) (hcell : cell.field? "text" = none) :
    Reads c cell (.string "")
  | same {cell : Json} (hkind : c.kind ≠ .longText)
    (hselect : c.kind = .singleSelect ∨ c.kind = .multipleSelect → ¬cell.Filled) :
    Reads c cell cell

/-- The cells that say nothing: what a select cell holds where the column has no options, and what a
cell of a multiple select holds that is no list. -/
def Drops (c : Column) (cell : Json) : Prop :=
  cell.Filled ∧ (c.kind = .singleSelect ∧ c.options = [] ∨
    c.kind = .multipleSelect ∧ (c.options = [] ∨ ∀ ids, cell ≠ .array ids))

/-- An option is looked for among the options, of which a column without metadata has none. -/
theorem optionName_eq (c : Column) (id : Json) : c.optionName id =
    match id.string?.bind fun id => c.options.find? fun o => o.id == id with
    | some o => .string o.name
    | none => .null := by
  unfold optionName options
  cases id.string? with
  | none => rfl
  | some id =>
      cases c.data with
      | none => rfl
      | some data =>
          simp only [Option.bind_some, Option.map_some, Option.getD_some, ColumnData.optionName?]
          cases data.options.find? fun o => o.id == id <;> rfl

theorem names_optionName (c : Column) (id : Json) : c.Names id (c.optionName id) := by
  rw [optionName_eq]
  split
  · next o h =>
      rcases Option.bind_eq_some_iff.mp h with ⟨s, hs, hfind⟩
      -- The first option with the id gives the name, and only a text can be an id.
      rcases List.find?_eq_some_iff_append.mp hfind with ⟨hid, before, after, hoptions, hfirst⟩
      obtain rfl : o.id = s := beq_iff_eq.mp hid
      cases id with
      | string _ =>
          cases hs
          refine .option hoptions fun p hp => ?_
          simpa only [Bool.not_eq_true', beq_eq_false_iff_ne] using hfirst p hp
      | _ => exact nomatch hs
  · next h =>
      refine .unknown fun o ho hid => ?_
      rw [hid] at h
      exact List.find?_eq_none.mp h o ho (beq_self_eq_true o.id)

theorem Names.eq_optionName {c : Column} {id name : Json} (h : c.Names id name) :
    c.optionName id = name := by
  rw [optionName_eq]
  cases h with
  | @option before after o hoptions hfirst =>
      have hfind : c.options.find? (fun p => p.id == o.id) = some o := by
        refine List.find?_eq_some_iff_append.mpr
          ⟨beq_self_eq_true o.id, before, after, hoptions, fun p hp => ?_⟩
        rw [Bool.not_eq_true', beq_eq_false_iff_ne]
        exact hfirst p hp
      simp only [Json.string?, Option.bind_some, hfind]
  -- No option has the id, and for what is not a text none is looked for.
  | unknown hid =>
      cases id with
      | string s =>
          have hfind : c.options.find? (fun p => p.id == s) = none := by
            refine List.find?_eq_none.mpr fun p hp hs => hid p hp ?_
            rw [beq_iff_eq.mp hs]
          simp only [Json.string?, Option.bind_some, hfind]
      | _ => rfl

/-! ## What a cell reads as -/

/-- Every cell reads as something unless it says nothing. -/
theorem exists_reads_or_drops (c : Column) (cell : Json) :
    (∃ value, c.Reads cell value) ∨ c.Drops cell := by
  -- A long text is always read, a filled selection is read or dropped, and any other cell stays as
  -- it is.
  by_cases hlong : c.kind = .longText
  · cases htext : cell.field? "text" with
    | none => exact .inl ⟨_, .noText hlong htext⟩
    | some text =>
        rcases Json.object_of_field? htext with ⟨fields, rfl, hlookup⟩
        exact .inl ⟨text, .text hlong hlookup⟩
  by_cases hselect : (c.kind = .singleSelect ∨ c.kind = .multipleSelect) ∧ cell.Filled
  · rcases hselect with ⟨hsingle | hmultiple, hfilled⟩
    · -- One id needs options to be looked up in.
      by_cases hoptions : c.options = []
      · exact .inr ⟨hfilled, .inl ⟨hsingle, hoptions⟩⟩
      · exact .inl ⟨_, .option hsingle hfilled hoptions (c.names_optionName cell)⟩
    · -- A list of ids needs options and has to be a list.
      by_cases hlist : c.options = [] ∨ ∀ ids, cell ≠ .array ids
      · exact .inr ⟨hfilled, .inr ⟨hmultiple, hlist⟩⟩
      · simp only [not_or, not_forall, not_not] at hlist
        rcases hlist with ⟨hoptions, ids, rfl⟩
        have hids : ids ≠ [] := by
          rintro rfl
          exact hfilled (by decide)
        -- The names are found one by one, in the order of the ids.
        have hnames : List.Forall₂ c.Names ids (ids.map c.optionName) :=
          List.forall₂_map_right_iff.mpr (List.forall₂_same.mpr fun id _ => c.names_optionName id)
        exact .inl ⟨_, .options hmultiple hids hoptions hnames⟩
  · exact .inl ⟨cell, .same hlong fun hkind hfilled => hselect ⟨hkind, hfilled⟩⟩

theorem Reads.readable? {c : Column} {cell value : Json} (h : c.Reads cell value) :
    c.readable? cell = some value := by
  cases h with
  | option hkind hid hoptions hname =>
      simp only [Column.readable?, hkind, Json.isFilled_iff.mpr hid, Bool.not_true,
        Bool.false_eq_true, if_false, List.isEmpty_iff, hoptions, hname.eq_optionName]
  | @options ids names hkind hids hoptions hnames =>
      have hfilled : (Json.array ids).isFilled = true := by
        rw [Json.isFilled, List.isEmpty_eq_false_iff.mpr hids, Bool.not_false]
      -- Each id has one name, so there is one list of names for the ids.
      have hmap : ids.map c.optionName = names := by
        rw [← List.forall₂_eq_eq_eq, List.forall₂_map_left_iff]
        exact hnames.imp fun _ _ hname => hname.eq_optionName
      simp only [Column.readable?, hkind, hfilled, Bool.not_true, Bool.false_eq_true, if_false,
        List.isEmpty_iff, hoptions, Json.array?, Option.map_some, hmap]
  | text hkind htext =>
      simp only [Column.readable?, hkind, Json.field?, Json.object?, Option.bind_some, htext,
        Option.getD_some]
  | noText hkind hcell => simp only [Column.readable?, hkind, hcell, Option.getD_none]
  | same hkind hselect =>
      -- A selection whose cell is not filled is passed through like any other cell.
      have hblank : c.kind = .singleSelect ∨ c.kind = .multipleSelect →
          (!cell.isFilled) = true := fun h => by
        rw [Bool.not_eq_true', Bool.eq_false_iff]
        exact mt Json.isFilled_iff.mp (hselect h)
      unfold Column.readable?
      split
      · next hsingle => rw [if_pos (hblank (.inl hsingle))]
      · next hmultiple => rw [if_pos (hblank (.inr hmultiple))]
      · next hlong => exact absurd hlong hkind
      · rfl

theorem Drops.readable? {c : Column} {cell : Json} (h : c.Drops cell) :
    c.readable? cell = none := by
  rcases h with ⟨hfilled, ⟨hkind, hoptions⟩ | ⟨hkind, hoptions | hlist⟩⟩
  · simp only [Column.readable?, hkind, Json.isFilled_iff.mpr hfilled, Bool.not_true,
      Bool.false_eq_true, if_false, hoptions, List.isEmpty_nil, if_true]
  · simp only [Column.readable?, hkind, Json.isFilled_iff.mpr hfilled, Bool.not_true,
      Bool.false_eq_true, if_false, hoptions, List.isEmpty_nil, if_true]
  · -- There are options, but the cell is no list of ids.
    have harray : cell.array? = none := by
      cases cell with
      | array ids => exact absurd rfl (hlist ids)
      | _ => rfl
    simp only [Column.readable?, hkind, Json.isFilled_iff.mpr hfilled, Bool.not_true,
      Bool.false_eq_true, if_false, harray, Option.map_none, ite_self]

theorem readable?_eq_some_iff {c : Column} {cell value : Json} :
    c.readable? cell = some value ↔ c.Reads cell value := by
  refine ⟨fun h => ?_, Reads.readable?⟩
  rcases c.exists_reads_or_drops cell with ⟨other, hreads⟩ | hdrops
  · rw [hreads.readable?] at h
    exact Option.some.inj h ▸ hreads
  · rw [hdrops.readable?] at h
    exact nomatch h

theorem readable?_eq_none_iff {c : Column} {cell : Json} :
    c.readable? cell = none ↔ c.Drops cell := by
  refine ⟨fun h => ?_, Drops.readable?⟩
  rcases c.exists_reads_or_drops cell with ⟨other, hreads⟩ | hdrops
  · rw [hreads.readable?] at h
    exact nomatch h
  · exact hdrops

/-! ## Columns by their keys -/

theorem find?_key_eq_some_iff {columns : List Column} (h : (columns.map key).Nodup) {k : String}
    {c : Column} : columns.find? (fun column => column.key == k) = some c ↔
      c ∈ columns ∧ c.key = k := by
  constructor
  · intro hfind
    have hkey := List.find?_some hfind
    exact ⟨List.mem_of_find?_eq_some hfind, beq_iff_eq.mp hkey⟩
  · rintro ⟨hmem, rfl⟩
    cases hfind : columns.find? fun column => column.key == c.key with
    | none => exact absurd (beq_self_eq_true c.key) (List.find?_eq_none.mp hfind c hmem)
    | some other =>
        have hkey := List.find?_some hfind
        -- No other column has the key, and so the first one with it is this one.
        rw [List.inj_on_of_nodup_map h (List.mem_of_find?_eq_some hfind) hmem (beq_iff_eq.mp hkey)]

/-- Columns with different keys are found in any order. -/
theorem find?_key_perm {columns columns' : List Column} (hperm : columns'.Perm columns)
    (h : (columns.map key).Nodup) (k : String) :
    columns'.find? (fun column => column.key == k) =
      columns.find? (fun column => column.key == k) := by
  have h' : (columns'.map key).Nodup := (hperm.map key).nodup_iff.mpr h
  ext c
  rw [find?_key_eq_some_iff h', find?_key_eq_some_iff h, hperm.mem_iff]

end Column

namespace Change

/-! ## The fields of a readable change -/

variable {c : Change} {columns : List Column} {name : String} {value : Json}

theorem mem_readableCells (hkeys : (columns.map Column.key).Nodup) :
    (name, value) ∈ c.readableCells columns ↔
      ∃ column ∈ columns, ∃ cell, (column.key, cell) ∈ c.cells ∧
        column.readable? cell = some value ∧ column.name = name := by
  simp only [readableCells, List.mem_filterMap, Option.bind_eq_bind, Option.bind_eq_some_iff,
    Column.find?_key_eq_some_iff hkeys, Option.some.injEq, Prod.mk.injEq, Prod.exists]
  constructor
  · rintro ⟨key, cell, hcell, column, ⟨hcolumn, rfl⟩, readable, hreadable, hname, rfl⟩
    exact ⟨column, hcolumn, cell, hcell, hreadable, hname⟩
  · rintro ⟨column, hcolumn, cell, hcell, hreadable, hname⟩
    exact ⟨column.key, cell, hcell, column, ⟨hcolumn, rfl⟩, value, hreadable, hname, rfl⟩

/-- No name is written twice: one name is one column, and one column has one key. -/
theorem nodup_readableCells (hkeys : (columns.map Column.key).Nodup)
    (hnames : (columns.map Column.name).Nodup) (hcells : (c.cells.map Prod.fst).Nodup) :
    ((c.readableCells columns).map Prod.fst).Nodup := by
  rw [List.Nodup, List.pairwise_map, readableCells, List.pairwise_filterMap]
  rw [List.Nodup, List.pairwise_map] at hcells
  refine hcells.imp fun {field field'} hne written hwritten written' hwritten' heq => hne ?_
  simp only [Option.bind_eq_bind, Option.bind_eq_some_iff, Column.find?_key_eq_some_iff hkeys,
    Option.some.injEq] at hwritten hwritten'
  rcases hwritten with ⟨column, ⟨hcolumn, hkey⟩, value, -, rfl⟩
  rcases hwritten' with ⟨column', ⟨hcolumn', hkey'⟩, value', -, rfl⟩
  rw [← hkey, ← hkey', List.inj_on_of_nodup_map hnames hcolumn hcolumn' heq]

/-- Under the name of a column stands what its own cell reads as. -/
theorem lookup_readableCells (hkeys : (columns.map Column.key).Nodup)
    (hnames : (columns.map Column.name).Nodup) (hcells : (c.cells.map Prod.fst).Nodup)
    {column : Column} (hcolumn : column ∈ columns) :
    (c.readableCells columns).lookup column.name =
      (c.cells.lookup column.key).bind column.readable? := by
  ext value
  rw [Fields.lookup_eq_some_iff_mem (nodup_readableCells hkeys hnames hcells),
    mem_readableCells hkeys, Option.bind_eq_some_iff]
  simp only [Fields.lookup_eq_some_iff_mem hcells]
  -- Distinct names tell the column from the name, and distinct keys the cell from the column.
  constructor
  · rintro ⟨other, hother, cell, hcell, hreadable, hname⟩
    obtain rfl : other = column := List.inj_on_of_nodup_map hnames hother hcolumn hname
    exact ⟨cell, hcell, hreadable⟩
  · rintro ⟨cell, hcell, hreadable⟩
    exact ⟨column, hcolumn, cell, hcell, hreadable, rfl⟩

theorem readableCells_perm {columns' : List Column} (hperm : columns'.Perm columns)
    (hkeys : (columns.map Column.key).Nodup) (c : Change) :
    c.readableCells columns' = c.readableCells columns := by
  simp only [readableCells, Column.find?_key_perm hperm hkeys]

/-- The names above the cells. -/
def headerNames : List String := ["_id", "op_type", "table_name"]

theorem pairwise_header (c : Change) (table : String) :
    ((c.header table).map Prod.fst).Pairwise (· < ·) := by
  have hnames : headerNames.Pairwise (· < ·) := by decide
  exact hnames

theorem readable_eq {message : Json} {kind : ChangeKind} {cells : Fields}
    (hkind : message.field? "op_type" = some (.string kind.name))
    (hcells : message.field? kind.cellsKey = some (.object cells)) (table : String)
    (columns : List Column) : readable message table columns =
      .object (fields ⟨kind, (message.field? "row_id").getD .null, cells⟩ table columns) := by
  have hchange : ofJson? message = some ⟨kind, (message.field? "row_id").getD .null, cells⟩ := by
    simp only [ofJson?, hkind, hcells, Json.string?, Json.object?, ChangeKind.ofName?_name,
      Option.bind_eq_bind, Option.bind_some]
  rw [readable, hchange]

theorem nodup_cells {message : Json} (hmessage : message.Ordered) {key : String} {cells : Fields}
    (h : message.field? key = some (.object cells)) : (cells.map Prod.fst).Nodup := by
  rcases Json.object_of_field? h with ⟨fields, rfl, hlookup⟩
  have hordered : (Json.object cells).Ordered :=
    Json.fieldsOrdered_iff.mp hmessage.2 _ (Fields.mem_of_lookup hlookup)
  exact hordered.1.imp fun hlt => ne_of_lt hlt

theorem lookup_fields (hkeys : (columns.map Column.key).Nodup)
    (hnames : (columns.map Column.name).Nodup) (hcells : (c.cells.map Prod.fst).Nodup)
    (table name : String) : (c.fields table columns).lookup name =
      ((c.readableCells columns).lookup name).or ((c.header table).lookup name) := by
  rw [fields, Fields.lookup_overlay,
    Fields.lookup_reverse (nodup_readableCells hkeys hnames hcells)]

/-- A name that no column has is that of a field above the cells. -/
theorem lookup_fields_header (hkeys : (columns.map Column.key).Nodup)
    (hnames : (columns.map Column.name).Nodup) (hcells : (c.cells.map Prod.fst).Nodup)
    (hname : ∀ column ∈ columns, column.name ≠ name) (table : String) :
    (c.fields table columns).lookup name = (c.header table).lookup name := by
  have hnone : (c.readableCells columns).lookup name = none := by
    refine Option.eq_none_iff_forall_ne_some.mpr fun value hvalue => ?_
    rcases (mem_readableCells hkeys).mp (Fields.mem_of_lookup hvalue) with
      ⟨column, hcolumn, -, -, -, heq⟩
    exact hname column hcolumn heq
  rw [lookup_fields hkeys hnames hcells, hnone, Option.none_or]

theorem lookup_fields_column (hkeys : (columns.map Column.key).Nodup)
    (hnames : (columns.map Column.name).Nodup) (hcells : (c.cells.map Prod.fst).Nodup)
    {column : Column} (hcolumn : column ∈ columns) (hname : column.name ∉ headerNames)
    (table : String) : (c.fields table columns).lookup column.name =
      (c.cells.lookup column.key).bind column.readable? := by
  have hnone : (c.header table).lookup column.name = none :=
    Option.eq_none_iff_forall_ne_some.mpr fun value hvalue =>
      hname (Fields.mem_keys_iff.mpr ⟨value, hvalue⟩)
  rw [lookup_fields hkeys hnames hcells, lookup_readableCells hkeys hnames hcells hcolumn, hnone,
    Option.or_none]

/-- The names of the readable cells are those of the columns whose cells say something. -/
theorem mem_names_readableCells (hkeys : (columns.map Column.key).Nodup)
    (hcells : (c.cells.map Prod.fst).Nodup) : name ∈ (c.readableCells columns).map Prod.fst ↔
      ∃ column ∈ columns, column.name = name ∧
        ∃ cell, c.cells.lookup column.key = some cell ∧ ¬column.Drops cell := by
  simp only [List.mem_map, Prod.exists, mem_readableCells hkeys,
    Fields.lookup_eq_some_iff_mem hcells, ← Column.readable?_eq_none_iff]
  constructor
  · rintro ⟨name, value, ⟨column, hcolumn, cell, hcell, hreadable, hname⟩, rfl⟩
    exact ⟨column, hcolumn, hname, cell, hcell, by rw [hreadable]; exact nofun⟩
  · rintro ⟨column, hcolumn, hname, cell, hcell, hreadable⟩
    rcases Option.ne_none_iff_exists'.mp hreadable with ⟨value, hvalue⟩
    exact ⟨name, value, ⟨column, hcolumn, cell, hcell, hvalue, hname⟩, rfl⟩

/-- The readable form of a message has the names of the header and of the columns whose cells say
something, each of them once. Under the name of a column stands what its own cell reads as, and
under those of the header stand the id of the row, the kind of the change and the name of the table.
The order of the columns does not matter. -/
theorem readable_exact {message : Json} (hmessage : message.Ordered) {kind : ChangeKind}
    {cells : Fields} (hkind : message.field? "op_type" = some (.string kind.name))
    (hcells : message.field? kind.cellsKey = some (.object cells)) (table : String)
    {columns : List Column} (hkeys : (columns.map Column.key).Nodup)
    (hnames : (columns.map Column.name).Nodup)
    (hreserved : ∀ column ∈ columns, column.name ∉ headerNames) :
    ∃ fields, readable message table columns = .object fields ∧
      (fields.map Prod.fst).Pairwise (· < ·) ∧
      (∀ name, name ∈ fields.map Prod.fst ↔ name ∈ headerNames ∨ ∃ column ∈ columns,
        column.name = name ∧ ∃ cell, cells.lookup column.key = some cell ∧ ¬column.Drops cell) ∧
      fields.lookup "_id" = some ((message.field? "row_id").getD .null) ∧
      fields.lookup "op_type" = some (.string kind.name) ∧
      fields.lookup "table_name" = some (.string table) ∧
      (∀ column ∈ columns, ∀ value, fields.lookup column.name = some value ↔
        ∃ cell, cells.lookup column.key = some cell ∧ column.Reads cell value) ∧
      ∀ columns' : List Column, columns'.Perm columns →
        readable message table columns' = .object fields := by
  have hdistinct : (cells.map Prod.fst).Nodup := nodup_cells hmessage hcells
  set change : Change := ⟨kind, (message.field? "row_id").getD .null, cells⟩
  -- No column is named like a field of the header, so no cell is written over one.
  have hheader : ∀ name ∈ headerNames,
      (change.fields table columns).lookup name = (change.header table).lookup name := by
    intro name hname
    refine lookup_fields_header hkeys hnames hdistinct (fun column hcolumn heq => ?_) table
    exact hreserved column hcolumn (heq ▸ hname)
  refine ⟨change.fields table columns, readable_eq hkind hcells table columns,
    Fields.pairwise_overlay (pairwise_header change table) _, fun name => ?_,
    hheader "_id" (by decide), hheader "op_type" (by decide), hheader "table_name" (by decide),
    fun column hcolumn value => ?_, fun columns' hperm => ?_⟩
  · -- What is named is the header and what the cells are read as.
    rw [fields, Fields.mem_keys_overlay, mem_names_readableCells hkeys hdistinct]
    rfl
  · rw [lookup_fields_column hkeys hnames hdistinct hcolumn (hreserved column hcolumn),
      Option.bind_eq_some_iff]
    simp only [Column.readable?_eq_some_iff]
    rfl
  · -- The columns are only searched by key, and a key is in one place of every order.
    rw [readable_eq hkind hcells, fields, fields, readableCells_perm hperm hkeys]

/-- An inserted row with cells of four kinds and one that no column has; the column of the tags
comes last or first. -/
theorem readable_exact_inserted :
    let options := some { ColumnData.blank with
      options := [⟨"o1", "Red", none⟩, ⟨"o2", "Blue", none⟩] }
    let name : Column := ⟨"0000", "Name", .text, none⟩
    let color : Column := ⟨"s1", "Color", .singleSelect, options⟩
    let notes : Column := ⟨"l1", "Notes", .longText, none⟩
    let tags : Column := ⟨"m1", "Tags", .multipleSelect, options⟩
    let cells : Fields := [("0000", .string "hello"), ("_ctime", .string "2021-01-01"),
      ("l1", .object [("preview", .string "lo"), ("text", .string "long")]),
      ("m1", .array [.string "o2", .string "o3"]), ("s1", .string "")]
    let message : Json := .object [("op_type", .string "insert_row"), ("row_data", .object cells),
      ("row_id", .string "r1")]
    message.Ordered ∧ message.field? "op_type" = some (.string ChangeKind.insert.name) ∧
      message.field? ChangeKind.insert.cellsKey = some (.object cells) ∧
      ([name, color, notes, tags].map Column.key).Nodup ∧
      ([name, color, notes, tags].map Column.name).Nodup ∧
      (∀ column ∈ [name, color, notes, tags], column.name ∉ headerNames) ∧
      ∃ fields, readable message "Table1" [name, color, notes, tags] = .object fields ∧
        "Color" ∈ fields.map Prod.fst ∧
        fields.lookup "Tags" = some (.array [.string "Blue", .null]) ∧
        fields.lookup "Notes" = some (.string "long") ∧
        readable message "Table1" [tags, name, color, notes] = .object fields := by
  intro options name color notes tags cells message
  have hmessage : message.Ordered := Json.normal_eq_self_iff.mp (by decide +kernel)
  have hkind : message.field? "op_type" = some (.string ChangeKind.insert.name) := rfl
  have hcells : message.field? ChangeKind.insert.cellsKey = some (.object cells) := rfl
  have hkeys : ([name, color, notes, tags].map Column.key).Nodup := by decide
  have hnames : ([name, color, notes, tags].map Column.name).Nodup := by decide
  have hreserved : ∀ column ∈ [name, color, notes, tags], column.name ∉ headerNames := by decide
  rcases readable_exact hmessage hkind hcells "Table1" hkeys hnames hreserved with
    ⟨fields, hreadable, -, hnamed, -, -, -, hread, hperm⟩
  have hcolor : ¬color.Drops (.string "") := fun h => h.1 (by decide)
  have htags : tags.Reads (.array [.string "o2", .string "o3"])
      (.array [.string "Blue", .null]) := Column.readable?_eq_some_iff.mp rfl
  refine ⟨hmessage, hkind, hcells, hkeys, hnames, hreserved, fields, hreadable,
    (hnamed "Color").mpr (.inr ⟨color, by decide, rfl, _, rfl, hcolor⟩),
    (hread tags (by decide) _).mpr ⟨_, rfl, htags⟩,
    (hread notes (by decide) _).mpr ⟨_, rfl, .text rfl rfl⟩, hperm _ ?_⟩
  have hrotated : ([tags] ++ [name, color, notes]).Perm ([name, color, notes] ++ [tags]) :=
    List.perm_append_comm
  exact hrotated

/-- The text of a long text that is stored as a string is not kept, though a comparison sees it. -/
theorem not_readable_longText :
    let notes : Column := ⟨"l1", "Notes", .longText, none⟩
    let message : Json := .object [("op_type", .string "insert_row"),
      ("row_data", .object [("l1", .string "hello")]), ("row_id", .string "r1")]
    message.Ordered ∧ Cell.text? ⟨notes.kind, some (.string "hello")⟩ = some "hello" ∧
      readable message "Table1" [notes] = .object [("Notes", .string ""), ("_id", .string "r1"),
        ("op_type", .string "insert_row"), ("table_name", .string "Table1")] := by
  intro notes message
  exact ⟨Json.normal_eq_self_iff.mp (by decide +kernel), by decide +kernel, by decide +kernel⟩

end Change

end GridQuery
