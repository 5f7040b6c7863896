import GridQuery.Column.Kind
import GridQuery.Json.Outline
import GridQuery.Json.Record

/-!
# Columns

A column has a key, by which change messages know it, a name, by which conditions and rows know it,
a kind and optional metadata. Columns are read from JSON and written back without the parts that are
empty or absent. A document may say more of a column than its outline names; that is passed over.

## Main definitions

* `SelectOption`, `ColumnData`, `Column`: A column and its metadata.
* `Column.shape`, `Column.outline`, `Column.toJson`: Reading and writing a column.
-/

namespace GridQuery

/-- An option of a select column. -/
structure SelectOption where
  id : String
  name : String
  color : Option String
  deriving DecidableEq, Repr

/-- The metadata of a column. -/
structure ColumnData where
  options : List SelectOption
  resultType : Option FormulaResult
  linkId : Option String
  tableId : Option String
  otherTableId : Option String
  format : Option String
  deriving DecidableEq, Repr

/-- A column of a table. -/
structure Column where
  key : String
  name : String
  kind : ColumnKind
  data : Option ColumnData
  deriving DecidableEq, Repr

namespace SelectOption

def shape : Shape SelectOption :=
  .record false ⟨"", "", none⟩
    [.of "id" true .string fun o id => { o with id },
      .of "name" true .string fun o name => { o with name },
      .of "color" false (.optional .string) fun o color => { o with color }]

def outline : Json.Outline :=
  .record [("id", .whole), ("name", .whole), ("color", .whole)]

def toJson (o : SelectOption) : Json :=
  .object (Json.fieldIf "color" (o.color.map .string) ++
    [("id", .string o.id), ("name", .string o.name)])

end SelectOption

namespace ColumnData

/-- The metadata with nothing in it. -/
def blank : ColumnData := ⟨[], none, none, none, none, none⟩

/-- The name of the option with an id. -/
def optionName? (data : ColumnData) (id : String) : Option String :=
  (data.options.find? fun o => o.id == id).map SelectOption.name

def shape : Shape ColumnData :=
  .record false blank
    [.of "options" false (.list SelectOption.shape) fun d options => { d with options },
      .of "result_type" false (.optional (.variant FormulaResult.ofName?))
        fun d resultType => { d with resultType },
      .of "link_id" false (.optional .string) fun d linkId => { d with linkId },
      .of "table_id" false (.optional .string) fun d tableId => { d with tableId },
      .of "other_table_id" false (.optional .string)
        fun d otherTableId => { d with otherTableId },
      .of "format" false (.optional .string) fun d format => { d with format }]

def outline : Json.Outline :=
  .record [("options", .list SelectOption.outline), ("result_type", .whole), ("link_id", .whole),
    ("table_id", .whole), ("other_table_id", .whole), ("format", .whole)]

def toJson (d : ColumnData) : Json :=
  .object (Json.fieldIf "format" (d.format.map .string) ++
    Json.fieldIf "link_id" (d.linkId.map .string) ++
    Json.fieldIf "options"
      (if d.options.isEmpty then none else some (.array (d.options.map SelectOption.toJson))) ++
    Json.fieldIf "other_table_id" (d.otherTableId.map .string) ++
    Json.fieldIf "result_type" (d.resultType.map fun r => .string r.name) ++
    Json.fieldIf "table_id" (d.tableId.map .string))

end ColumnData

namespace Column

/-- What the formula of a column computes, if its metadata says so. -/
def resultType (c : Column) : Option FormulaResult :=
  c.data.bind ColumnData.resultType

def shape : Shape Column :=
  .record false ⟨"", "", .default, none⟩
    [.of "key" false .string fun c key => { c with key },
      .of "name" true .string fun c name => { c with name },
      .of "type" true (.variant ColumnKind.ofName?) fun c kind => { c with kind },
      .of "data" false (.optional ColumnData.shape) fun c data => { c with data }]

def outline : Json.Outline :=
  .record [("key", .whole), ("name", .whole), ("type", .whole), ("data", ColumnData.outline)]

def toJson (c : Column) : Json :=
  .object (Json.fieldIf "data" (c.data.map ColumnData.toJson) ++
    [("key", .string c.key), ("name", .string c.name), ("type", .string c.kind.name)])

end Column

end GridQuery
