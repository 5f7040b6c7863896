import GridQuery.Proofs.Records
import GridQuery.Table.Basic

/-!
# Tables Read Back

A table is read from what it is written as, and so is each of its columns.

An option, the metadata of a column, a column and a table are records, one inside the other, and
each leaves out what its blank record has. Metadata with nothing in it is written as an object
without fields, and absent metadata is not written, so the two are still told apart. A row is
written with all its cells, and is no record: any key may be in it.

What a document said in other words is settled by the first reading. Fields that are not declared
are passed over, fields come in any order, records may be arrays, and nulls stand for what is
absent; whatever the document was, the table that was read from it is read again from what it is
written as. Cells are the only values of any shape. They are sorted when a row is read, which is
carried through the table as something that no field takes from it.

## Theorems

* `SelectOption.shape_toJson`, `ColumnData.shape_toJson`, `Column.shape_toJson`,
  `Table.shape_toJson`: Each record is read back.
* `Table.ordered_of_shape`: The rows of a table that was read have their cells in order.
* `Table.toJson_reads_back`: Tables are read back, and so are tables and columns that were read from
  any document.
-/

namespace GridQuery

open Shape

theorem SelectOption.shape_toJson (o : SelectOption) : shape o.toJson = .ok o := by
  have hwritten : o.toJson = .object (Fields.written
      [("color", o.color.map .string), ("id", some (.string o.id)),
        ("name", some (.string o.name))]) := rfl
  rw [hwritten]
  refine record_written ?_ ?_ ?_
  · exact fills_optional rfl (fun _ _ => rfl) rfl <| fills_field rfl rfl <| fills_field rfl rfl <|
      .nil _
  · simp only [List.map_cons, List.map_nil]
    decide
  · intro name hname
    rcases List.mem_pair.1 hname with rfl | rfl
    · exact ⟨_, List.mem_cons_of_mem _ List.mem_cons_self⟩
    · exact ⟨_, List.mem_cons_of_mem _ (List.mem_cons_of_mem _ List.mem_cons_self)⟩

theorem ColumnData.shape_toJson (d : ColumnData) : shape d.toJson = .ok d := by
  -- The fields are followed as they are written, by name, and not as the record declares them.
  have hwritten : d.toJson = .object (Fields.written
      [("format", d.format.map .string), ("link_id", d.linkId.map .string),
        ("options",
          if d.options.isEmpty then none else some (.array (d.options.map SelectOption.toJson))),
        ("other_table_id", d.otherTableId.map .string),
        ("result_type", d.resultType.map fun r => .string r.name),
        ("table_id", d.tableId.map .string)]) := by
    simp only [toJson, Fields.written, List.flatMap_cons, List.flatMap_nil, List.append_assoc,
      List.append_nil]
  have hresult : ∀ r, d.resultType = some r →
      (variant FormulaResult.ofName?).optional (.string r.name) = .ok (some r) :=
    fun r _ => map_eq_ok_iff.2 ⟨r, variant_string r.ofName?_name, rfl⟩
  rw [hwritten]
  refine record_written ?_ ?_ fun name hname => absurd hname List.not_mem_nil
  · exact fills_optional rfl (fun _ _ => rfl) rfl <| fills_optional rfl (fun _ _ => rfl) rfl <|
      fills_nonempty rfl (fun o _ => SelectOption.shape_toJson o) rfl <|
      fills_optional rfl (fun _ _ => rfl) rfl <| fills_optional rfl hresult rfl <|
      fills_optional rfl (fun _ _ => rfl) rfl <| .nil _
  · simp only [List.map_cons, List.map_nil]
    decide

theorem Column.shape_toJson (c : Column) : shape c.toJson = .ok c := by
  have hwritten : c.toJson = .object (Fields.written
      [("data", c.data.map ColumnData.toJson), ("key", some (.string c.key)),
        ("name", some (.string c.name)), ("type", some (.string c.kind.name))]) := rfl
  have hdata : ∀ d, c.data = some d → ColumnData.shape.optional d.toJson = .ok (some d) :=
    fun d _ => map_eq_ok_iff.2 ⟨d, d.shape_toJson, rfl⟩
  have hkind := variant_string c.kind.ofName?_name
  rw [hwritten]
  refine record_written ?_ ?_ ?_
  · exact fills_optional rfl hdata rfl <| fills_field rfl rfl <| fills_field rfl rfl <|
      fills_field rfl hkind <| .nil _
  · simp only [List.map_cons, List.map_nil]
    decide
  · -- The name and the kind have to be there, and both are always written.
    intro name hname
    rcases List.mem_pair.1 hname with rfl | rfl
    · exact ⟨_, List.mem_cons_of_mem _ (List.mem_cons_of_mem _ List.mem_cons_self)⟩
    · exact ⟨_, List.mem_cons_of_mem _
        (List.mem_cons_of_mem _ (List.mem_cons_of_mem _ List.mem_cons_self))⟩

namespace Row

theorem shape_toJson {row : Row} (h : row.toJson.Ordered) : shape row.toJson = .ok row := by
  have hcells : Fields.sorted (Json.normalFields row.cells) = row.cells :=
    Json.object.inj (Json.normal_of_ordered h)
  rw [toJson, shape, fields, hcells]
  rfl

theorem ordered_of_shape {value : Json} {row : Row} (h : shape value = .ok row) :
    row.toJson.Ordered := by
  cases value with
  | object written =>
      rcases map_eq_ok_iff.1 h with ⟨cells, hcells, rfl⟩
      have hnormal : toJson ⟨cells⟩ = (Json.object written).normal :=
        congrArg Json.object (Except.ok.inj hcells).symm
      exact hnormal ▸ Json.ordered_normal (.object written)
  | _ => exact absurd h (by simp only [shape, fields, Except.map, reduceCtorEq, not_false_eq_true])

end Row

namespace Table

theorem shape_toJson {t : Table} (h : ∀ row ∈ t.rows, row.toJson.Ordered) :
    shape t.toJson = .ok t := by
  have hwritten : t.toJson = .object (Fields.written
      [("columns", some (.array (t.columns.map Column.toJson))), ("name", some (.string t.name)),
        ("rows", some (.array (t.rows.map Row.toJson)))]) := rfl
  have hcolumns : list Column.shape (.array (t.columns.map Column.toJson)) = .ok t.columns :=
    list_map fun c _ => c.shape_toJson
  have hrows := list_map fun row hrow => Row.shape_toJson (h row hrow)
  rw [hwritten]
  refine record_written ?_ ?_ ?_
  · exact fills_field rfl hcolumns <| fills_field rfl rfl <| fills_field rfl hrows <| .nil _
  · simp only [List.map_cons, List.map_nil]
    decide
  · intro name hname
    rcases List.mem_singleton.1 hname with rfl
    exact ⟨_, List.mem_cons_of_mem _ List.mem_cons_self⟩

theorem ordered_of_shape {value : Json} {t : Table} (h : shape value = .ok t) :
    ∀ row ∈ t.rows, row.toJson.Ordered := by
  refine record_keeps (P := fun t => ∀ row ∈ t.rows, row.toJson.Ordered) ?_
    (fun row hrow => absurd hrow List.not_mem_nil) h
  intro field hfield r value s hr hput
  simp only [List.mem_cons, List.not_mem_nil, or_false] at hfield
  -- Only the last field touches the rows, and puts rows there that were read.
  rcases hfield with rfl | rfl | rfl <;> rcases map_eq_ok_iff.1 hput with ⟨a, ha, rfl⟩
  · exact hr
  · exact hr
  · intro row hrow
    rcases exists_of_mem_list ha hrow with ⟨item, hitem⟩
    exact Row.ordered_of_shape hitem

/-- A table is read back from what it is written as, given that the cells of its rows are in order,
and so is a table that was read from any document. A column is read back in any case, whatever
document it was read from. -/
theorem toJson_reads_back :
    (∀ t : Table, (∀ row ∈ t.rows, row.toJson.Ordered) → shape t.toJson = .ok t) ∧
      (∀ (document : Json) (t : Table), shape document = .ok t → shape t.toJson = .ok t) ∧
      ∀ c : Column, Column.shape c.toJson = .ok c :=
  ⟨fun _ hordered => shape_toJson hordered, fun _ _ hread => shape_toJson (ordered_of_shape hread),
    Column.shape_toJson⟩

/-- A document with its fields out of order, an option as an array, nulls, a field that is not
declared, metadata with nothing in it, and a column without metadata. Under another name, the table
is one that was read from no document. -/
theorem toJson_reads_back_disordered :
    let document : Json := .object
      [("rows", .array [.object [("b", .null), ("a", .object [("y", .bool true), ("x", .null)])]]),
        ("version", .null),
        ("columns", .array
          [.object [("type", .string "single-select"), ("name", .string "Kind"),
              ("data", .object [("options", .array
                [.array [.string "o1", .string "Red"],
                  .object [("color", .string "#fff"), ("name", .string "White"),
                    ("id", .string "o2")]]), ("link_id", .null)])],
            .object [("name", .string "Sum"), ("data", .object []), ("type", .string "formula")],
            .object [("data", .null), ("name", .string "Due"), ("type", .string "date"),
              ("key", .string "d1")]]),
        ("name", .string "Table1")]
    let t : Table := ⟨"Table1",
      [⟨"", "Kind", .singleSelect,
          some ⟨[⟨"o1", "Red", none⟩, ⟨"o2", "White", some "#fff"⟩], none, none, none, none, none⟩⟩,
        ⟨"", "Sum", .formula, some .blank⟩, ⟨"d1", "Due", .date, none⟩],
      [⟨[("a", .object [("x", .null), ("y", .bool true)]), ("b", .null)]⟩]⟩
    let renamed : Table := { t with name := "Table2" }
    shape document = .ok t ∧ shape t.toJson = .ok t ∧
      (∀ row ∈ renamed.rows, row.toJson.Ordered) ∧ shape renamed.toJson = .ok renamed := by
  intro document t renamed
  have hread : shape document = .ok t := by cbv
  have hordered : ∀ row ∈ renamed.rows, row.toJson.Ordered := ordered_of_shape (t := t) hread
  exact ⟨hread, toJson_reads_back.2.1 document t hread, hordered,
    toJson_reads_back.1 renamed hordered⟩

end Table

end GridQuery
