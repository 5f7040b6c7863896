import GridQuery.Proofs.TableRoundTrip
import GridQuery.Table.Metadata

/-!
# The Two Forms of Column Metadata

A list of columns is read alike whether it stands alone or in the dump of a table.

The two forms are read in different ways. A list is read as it is; an object is read as the table
that it dumps, all of it, and then only the columns are kept. So the object has to be a table: a
name has to be there, and rows, if there are any, have to be objects. For such an object the name
and the rows change nothing about the columns, and whatever else it says of the table is passed
over. An object that is no table has no columns, even where its list of columns alone has. And what
columns are written as is read back as these columns, in either form.

## Main definitions

* `Fields.IsDump`: The fields of an object are those of a table, whatever its columns.

## Theorems

* `Table.suits_iff`: What a table is read from.
* `Column.listOfText_forms`: The list in an object holds the columns that the list alone holds, if
  the object is a dump, and none if it is not.
-/

namespace GridQuery

/-- The fields of an object are those of a table, whatever its columns: the name is a string, and
the rows, if there are any, are objects. -/
structure Fields.IsDump (fields : Fields) : Prop where
  name : ∃ name, fields.lookup "name" = some (.string name)
  rows : ∀ rows, fields.lookup "rows" = some rows →
    ∃ items, rows = .array items ∧ ∀ item ∈ items, ∃ cells, item = .object cells

theorem Shape.exists_string_iff {value : Json} :
    (∃ s, Shape.string value = .ok s) ↔ ∃ s, value = .string s := by
  cases value <;> simp [Shape.string]

namespace Row

theorem exists_shape_iff {value : Json} :
    (∃ row, shape value = .ok row) ↔ ∃ cells, value = .object cells := by
  cases value <;> simp [shape, Shape.fields, Except.map]

/-- Rows are read from an array of objects, whatever cells are in them. -/
theorem exists_list_shape_iff {value : Json} :
    (∃ rows, Shape.list shape value = .ok rows) ↔
      ∃ items, value = .array items ∧ ∀ item ∈ items, ∃ cells, item = .object cells := by
  cases value with
  | array items => simp only [Shape.list, exists_mapM_iff, exists_shape_iff, Json.array.injEq,
      exists_eq_left']
  | _ => simp only [Shape.list, reduceCtorEq, exists_false, false_and]

end Row

namespace Table

open Shape

/-- The table that a document without fields would give. -/
def blank : Table := ⟨"", [], []⟩

/-- The fields of a table. -/
def shapes : List (FieldShape Table) :=
  [.of "name" true .string fun t name => { t with name },
    .of "columns" false (.list Column.shape) fun t columns => { t with columns },
    .of "rows" false (.list Row.shape) fun t rows => { t with rows }]

theorem shape_eq : shape = .record false blank shapes := rfl

theorem uniform_shapes : Uniform shapes :=
  uniform_cons_of <| uniform_cons_of <| uniform_cons_of uniform_nil

/-- The columns are read from their field, and no other field touches them. -/
theorem places_columns : Places shapes "columns" (.list Column.shape) columns where
  known := ⟨_, List.mem_cons_of_mem _ List.mem_cons_self, rfl⟩
  put field hfield hname r value s hput := by
    simp only [shapes, List.mem_cons, List.not_mem_nil, or_false] at hfield
    -- A table has three fields, and only the second takes the columns.
    rcases hfield with rfl | rfl | rfl
    · exact absurd hname (by decide)
    · rcases map_eq_ok_iff.1 hput with ⟨columns, hcolumns, rfl⟩
      exact hcolumns
    · exact absurd hname (by decide)
  frame field hfield hname r value s hput := by
    simp only [shapes, List.mem_cons, List.not_mem_nil, or_false] at hfield
    rcases hfield with rfl | rfl | rfl
    · rcases map_eq_ok_iff.1 hput with ⟨name, -, rfl⟩
      rfl
    · exact absurd rfl hname
    · rcases map_eq_ok_iff.1 hput with ⟨rows, -, rfl⟩
      rfl

/-- A table is read from a dump whose columns can be read. -/
theorem suits_iff {fields : Fields} :
    Suits shapes blank [] fields ↔ fields.IsDump ∧
      ∀ value, fields.lookup "columns" = some value →
        ∃ columns, Shape.list Column.shape value = .ok columns := by
  rw [shapes, suits_cons_of, suits_cons_of, suits_cons_of]
  simp only [exists_string_iff, Row.exists_list_shape_iff, List.not_mem_nil, false_or, forall_const,
    Bool.false_eq_true, false_imp_iff, and_true]
  constructor
  · rintro ⟨⟨hstring, hthere⟩, hcolumns, hrows, -⟩
    -- The name has to be there and to be a text; the other two have defaults.
    rcases Option.isSome_iff_exists.1 hthere with ⟨value, hvalue⟩
    rcases hstring value hvalue with ⟨name, rfl⟩
    exact ⟨⟨⟨name, hvalue⟩, hrows⟩, hcolumns⟩
  · rintro ⟨⟨⟨name, hname⟩, hrows⟩, hcolumns⟩
    refine ⟨⟨fun value hvalue => ⟨name, ?_⟩, hname ▸ rfl⟩, hcolumns, hrows, suits_nil⟩
    exact Option.some.inj (hvalue.symm.trans hname)

/-- The columns of the table that an object is are those of its list of columns, and an object with
such a list is a table if it is a dump. -/
theorem shape_columns_iff {fields : Fields} {value : Json} {columns : List Column}
    (hdistinct : (fields.map Prod.fst).Nodup) (hcolumns : fields.lookup "columns" = some value) :
    (∃ t, shape (.object fields) = .ok t ∧ t.columns = columns) ↔
      Shape.list Column.shape value = .ok columns ∧ fields.IsDump := by
  have hnames : (shapes.map FieldShape.name).Nodup := by decide
  rw [shape_eq]
  constructor
  · rintro ⟨t, ht, rfl⟩
    have hsuits := (exists_record_iff uniform_shapes hnames hdistinct).1 ⟨t, ht⟩
    exact ⟨(record_places places_columns hdistinct ht).1 value hcolumns, (suits_iff.1 hsuits).1⟩
  · rintro ⟨hread, hdump⟩
    have hsuits : Suits shapes blank [] fields := by
      refine suits_iff.2 ⟨hdump, fun found hfound => ⟨columns, ?_⟩⟩
      rwa [← Option.some.inj (hcolumns.symm.trans hfound)]
    rcases (exists_record_iff uniform_shapes hnames hdistinct).2 hsuits with ⟨t, ht⟩
    -- The table that is read has these columns, for they are read from this field.
    have hplace := (record_places places_columns hdistinct ht).1 value hcolumns
    exact ⟨t, ht, Except.ok.inj (hplace.symm.trans hread)⟩

end Table

namespace Column

theorem listOfText_eq_ok_iff {text : String} {value : Json} {columns : List Column}
    (h : Json.parse? text = some value) :
    listOfText text = .ok columns ↔ listOfJson value = .ok columns := by
  rw [listOfText, h]

/-- A list of columns in an object holds the columns that it holds alone, whatever else is in the
object, if the object is a dump of a table; if it is not, there are no columns in it. What columns
are written as holds these columns. -/
theorem listOfText_forms {dump listed : String} {fields : Fields} {items : List Json}
    (hdump : Json.parse? dump = some (.object fields))
    (hcolumns : fields.lookup "columns" = some (.array items))
    (hlisted : Json.parse? listed = some (.array items)) (columns : List Column) :
    (listOfText dump = .ok columns ↔ listOfText listed = .ok columns ∧ fields.IsDump) ∧
      (items = columns.map toJson → listOfText listed = .ok columns) := by
  -- A document is kept in normal form, and so no name stands in it twice.
  have hdistinct : (fields.map Prod.fst).Nodup := by
    rcases Option.map_eq_some_iff.1 hdump with ⟨document, -, hnormal⟩
    have hordered : (Json.object fields).Ordered := hnormal ▸ Json.ordered_normal document
    exact hordered.1.imp ne_of_lt
  rw [listOfText_eq_ok_iff hdump, listOfText_eq_ok_iff hlisted, listOfJson, listOfJson, hcolumns,
    if_pos (Option.isSome_some), mapError_eq_ok_iff, mapError_eq_ok_iff, map_eq_ok_iff]
  refine ⟨Table.shape_columns_iff hdistinct hcolumns, ?_⟩
  rintro rfl
  exact Shape.list_map fun column _ => shape_toJson column

/-- A dump with a row and with a field that no table has, around one column as it is written. -/
theorem listOfText_forms_dump :
    let column : Column := ⟨"k1", "A", .text, none⟩
    let listed := "[\x7b\"name\":\"A\",\"type\":\"text\",\"key\":\"k1\"\x7d]"
    let dump :=
      "\x7b\"version\":1,\"columns\":" ++ listed ++ ",\"rows\":[\x7b\x7d],\"name\":\"T\"\x7d"
    let fields : Fields := [("columns", .array [column.toJson]), ("name", .string "T"),
      ("rows", .array [.object []]), ("version", .number (.int 1))]
    Json.parse? dump = some (.object fields) ∧
      Json.parse? listed = some (.array [column.toJson]) ∧ fields.IsDump ∧
      listOfText listed = .ok [column] ∧ listOfText dump = .ok [column] := by
  intro column listed dump fields
  have hdump : Json.parse? dump = some (.object fields) := by decide +kernel
  have hlisted : Json.parse? listed = some (.array [column.toJson]) := by decide +kernel
  have hisDump : fields.IsDump := by
    refine ⟨⟨"T", rfl⟩, fun rows hrows => ?_⟩
    obtain rfl : Json.array [.object []] = rows := Option.some.inj hrows
    exact ⟨[.object []], rfl, fun item hitem => ⟨[], List.mem_singleton.1 hitem⟩⟩
  rcases listOfText_forms hdump rfl hlisted [column] with ⟨hforms, hwritten⟩
  exact ⟨hdump, hlisted, hisDump, hwritten rfl, hforms.2 ⟨hwritten rfl, hisDump⟩⟩

/-- An object with columns alone is no dump, for want of a name. -/
theorem not_listOfText_forms :
    let fields : Fields := [("columns", .array [])]
    Json.parse? "\x7b\"columns\":[]\x7d" = some (.object fields) ∧
      fields.lookup "columns" = some (.array []) ∧ Json.parse? "[]" = some (.array []) ∧
      listOfText "[]" = .ok [] ∧
      listOfText "\x7b\"columns\":[]\x7d" = .error (.shape (.missingField "name")) := by
  intro fields
  exact ⟨by decide +kernel, rfl, by decide +kernel, by decide +kernel, by decide +kernel⟩

end Column

end GridQuery
