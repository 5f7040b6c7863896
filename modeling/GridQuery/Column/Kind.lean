/-!
# Column Kinds

The kinds of columns that a table may have, under the names by which table metadata knows them.
What a condition may ask of a cell depends on the family of its column's kind.

## Main definitions

* `ColumnKind`, `ColumnKind.name`, `ColumnKind.ofName?`: The kinds and their names.
* `Family`, `ColumnKind.family`: How the cells of a kind are compared.
* `FormulaResult`: What a formula column computes.

## Theorems

* `ColumnKind.ofName?_name`, `FormulaResult.ofName?_name`: A kind, or a result, is found under its
  name.
-/

namespace GridQuery

/-- The kinds of columns. -/
inductive ColumnKind
  | default | number | text | checkbox | date | singleSelect | longText | image | file
  | multipleSelect | collaborator | link | formula | linkFormula | creator | ctime
  | lastModifier | mtime | geolocation | autoNumber | url | email | duration | button | rate
  deriving DecidableEq, Repr

/-- How the cells of a column are compared. -/
inductive Family
  | text
  | ordered
  | list
  | bool
  deriving DecidableEq, Repr

/-- What a formula column computes. -/
inductive FormulaResult
  | number | string | date | bool | array
  deriving DecidableEq, Repr

namespace ColumnKind

/-- The name of a kind in table metadata. -/
def name : ColumnKind → String
  | .default => "default"
  | .number => "number"
  | .text => "text"
  | .checkbox => "checkbox"
  | .date => "date"
  | .singleSelect => "single-select"
  | .longText => "long-text"
  | .image => "image"
  | .file => "file"
  | .multipleSelect => "multiple-select"
  | .collaborator => "collaborator"
  | .link => "link"
  | .formula => "formula"
  | .linkFormula => "link-formula"
  | .creator => "creator"
  | .ctime => "ctime"
  | .lastModifier => "last-modifier"
  | .mtime => "mtime"
  | .geolocation => "geolocation"
  | .autoNumber => "auto-number"
  | .url => "url"
  | .email => "email"
  | .duration => "duration"
  | .button => "button"
  | .rate => "rate"

def all : List ColumnKind :=
  [.default, .number, .text, .checkbox, .date, .singleSelect, .longText, .image, .file,
    .multipleSelect, .collaborator, .link, .formula, .linkFormula, .creator, .ctime,
    .lastModifier, .mtime, .geolocation, .autoNumber, .url, .email, .duration, .button, .rate]

/-- The kind with a name. -/
def ofName? (name : String) : Option ColumnKind :=
  all.find? fun kind => kind.name == name

/-- The family of a kind; what is not ordered, a list or a checkbox is text. -/
def family : ColumnKind → Family
  | .number | .date | .ctime | .mtime | .rate | .duration => .ordered
  | .multipleSelect | .collaborator | .link => .list
  | .checkbox => .bool
  | _ => .text

/-- The kinds whose cells are times that the store writes. -/
def isSystemTime (kind : ColumnKind) : Bool :=
  kind == .ctime || kind == .mtime

theorem ofName?_name (kind : ColumnKind) : ofName? kind.name = some kind := by
  cases kind <;> decide

end ColumnKind

namespace FormulaResult

/-- The name of a result in table metadata. -/
def name : FormulaResult → String
  | .number => "number"
  | .string => "string"
  | .date => "date"
  | .bool => "bool"
  | .array => "array"

def all : List FormulaResult := [.number, .string, .date, .bool, .array]

/-- The result with a name. -/
def ofName? (name : String) : Option FormulaResult :=
  all.find? fun result => result.name == name

theorem ofName?_name (result : FormulaResult) : ofName? result.name = some result := by
  cases result <;> decide

end FormulaResult

end GridQuery
