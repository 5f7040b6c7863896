import GridQuery.Error
import GridQuery.Json.Parser
import GridQuery.Text.Blank
import GridQuery.Text.Split

/-!
# Filter Specifications

A filter specification says, as a JSON document, which rows of a table are wanted and in which
order. Its clauses stand in one flat list or in groups, never in both, and each list has one
conjunction, which is kept as it was written. Reading a specification is strict: no other fields.

Whether a specification makes sense is a second question after its shape. `Specification.validate`
asks it, and both `ofJson` and `ofText` do so after reading. The column of a clause, the predicates
that its kind knows and the form of a term are left to compilation.

## Main definitions

* `Clause`, `Group`, `SortKey`, `Specification`: The parts of a specification.
* `Specification.validate`: What the shape alone does not guarantee.
* `Specification.shape`, `Specification.toJson`: Reading without validation, and writing.
* `Specification.ofJson`, `Specification.ofText`: Reading with validation.
* `validateRowFilters`: The check of filters that are to be sent as they are.

## Theorems

* `Specification.validate_eq_ok`: The specifications that are valid.
-/

namespace GridQuery

/-- What one clause of a filter asks. The column is given by its key or by its name. -/
structure Clause where
  columnKey : Option String
  columnName : Option String
  predicate : Predicate
  term : Json
  modifierText : Option String
  deriving DecidableEq

/-- Clauses under one conjunction. -/
structure Group where
  clauses : List Clause
  conjunction : String
  deriving DecidableEq

/-- Which way a column is sorted. -/
inductive Direction
  | ascending
  | descending
  deriving DecidableEq, Repr

/-- A column to sort by. -/
structure SortKey where
  columnKey : Option String
  columnName : Option String
  sortType : Option String
  deriving DecidableEq, Repr

/-- What is wanted of a table. -/
structure Specification where
  clauses : List Clause
  conjunction : String
  groups : Option (List Group)
  groupConjunction : String
  sorts : List SortKey
  deriving DecidableEq

/-- The conjunction that is meant where none is written. -/
def defaultConjunction : String := "And"

namespace Clause

/-- A clause on the column with a name. -/
def byName (name : String) (predicate : Predicate) (term : Json) : Clause :=
  ⟨none, some name, predicate, term, none⟩

/-- A clause on the column with a key. -/
def byKey (key : String) (predicate : Predicate) (term : Json) : Clause :=
  ⟨some key, none, predicate, term, none⟩

/-- The clause with a modifier in place of the one it had. -/
def withModifier (c : Clause) (modifier : String) : Clause :=
  { c with modifierText := some modifier }

/-- The text of the modifier; a blank one is none. -/
def modifier? (c : Clause) : Option String :=
  c.modifierText.filter fun text => !(Text.trim text).isEmpty

def shape : Shape Clause :=
  .record true ⟨none, none, .is, .null, none⟩
    [.of "column_key" false (.optional .string) fun c columnKey => { c with columnKey },
      .of "column_name" false (.optional .string) fun c columnName => { c with columnName },
      .of "filter_predicate" true (.variant Predicate.ofName?)
        fun c predicate => { c with predicate },
      .of "filter_term" false .any fun c term => { c with term },
      .of "filter_term_modifier" false (.optional .string)
        fun c modifierText => { c with modifierText }]

def toJson (c : Clause) : Json :=
  .object (Json.fieldIf "column_key" (c.columnKey.map .string) ++
    Json.fieldIf "column_name" (c.columnName.map .string) ++
    [("filter_predicate", .string c.predicate.name), ("filter_term", c.term)] ++
    Json.fieldIf "filter_term_modifier" (c.modifierText.map .string))

end Clause

namespace Group

def shape : Shape Group :=
  .record true ⟨[], defaultConjunction⟩
    [.of "filters" false (.list Clause.shape) fun g clauses => { g with clauses },
      .of "filter_conjunction" false .string fun g conjunction => { g with conjunction }]

def toJson (g : Group) : Json :=
  .object [("filter_conjunction", .string g.conjunction),
    ("filters", .array (g.clauses.map Clause.toJson))]

end Group

namespace SortKey

/-- The column with a name, sorted in a way. -/
def byName (name : String) (sortType : Option String) : SortKey :=
  ⟨none, some name, sortType⟩

/-- Ascending only if the sort type says up. -/
def direction (s : SortKey) : Direction :=
  if s.sortType = some "up" then .ascending else .descending

def shape : Shape SortKey :=
  .record true ⟨none, none, none⟩
    [.of "column_key" false (.optional .string) fun s columnKey => { s with columnKey },
      .of "column_name" false (.optional .string) fun s columnName => { s with columnName },
      .of "sort_type" false (.optional .string) fun s sortType => { s with sortType }]

def toJson (s : SortKey) : Json :=
  .object (Json.fieldIf "column_key" (s.columnKey.map .string) ++
    Json.fieldIf "column_name" (s.columnName.map .string) ++
    Json.fieldIf "sort_type" (s.sortType.map .string))

end SortKey

namespace Specification

/-- The specification that wants every row. -/
def everything : Specification :=
  ⟨[], defaultConjunction, none, defaultConjunction, []⟩

/-- Clauses in one list. -/
def flat (clauses : List Clause) (conjunction : String) : Specification :=
  { everything with clauses, conjunction }

/-- Clauses in groups. -/
def grouped (groups : List Group) (groupConjunction : String) : Specification :=
  { everything with groups := some groups, groupConjunction }

/-- The specification with sort keys in place of those it had. -/
def withSorts (s : Specification) (sorts : List SortKey) : Specification :=
  { s with sorts }

/-- The clauses are in groups. -/
def isGrouped (s : Specification) : Bool := s.groups.isSome

/-- The word is a conjunction, in any case. -/
def isConjunction (word : String) : Bool :=
  Text.sameIgnoringCase word "and" || Text.sameIgnoringCase word "or"

/-- All conjunctions, in the order in which they are checked. -/
def conjunctions (s : Specification) : List String :=
  s.conjunction :: s.groupConjunction :: (s.groups.getD []).map Group.conjunction

/-- Clauses are in one form only, and every conjunction is one. -/
def validate (s : Specification) : Except QueryError Unit :=
  if !s.clauses.isEmpty && s.isGrouped then .error (.invalidSpecification .bothForms)
  else match s.conjunctions.find? fun word => !isConjunction word with
    | some word => .error (.invalidSpecification (.conjunction word))
    | none => .ok ()

def shape : Shape Specification :=
  .record true everything
    [.of "filters" false (.list Clause.shape) fun s clauses => { s with clauses },
      .of "filter_conjunction" false .string fun s conjunction => { s with conjunction },
      .of "filter_groups" false (.optional (.list Group.shape)) fun s groups => { s with groups },
      .of "group_conjunction" false .string
        fun s groupConjunction => { s with groupConjunction },
      .of "sorts" false (.list SortKey.shape) fun s sorts => { s with sorts }]

/-- A list to write, if there is anything in it. -/
def listIf (items : List Json) : Option Json :=
  if items.isEmpty then none else some (.array items)

def toJson (s : Specification) : Json :=
  .object ([("filter_conjunction", .string s.conjunction)] ++
    Json.fieldIf "filter_groups" (s.groups.map fun groups => .array (groups.map Group.toJson)) ++
    Json.fieldIf "filters" (listIf (s.clauses.map Clause.toJson)) ++
    [("group_conjunction", .string s.groupConjunction)] ++
    Json.fieldIf "sorts" (listIf (s.sorts.map SortKey.toJson)))

/-- The valid specification that a value holds. -/
def ofJson (value : Json) : Except QueryError Specification :=
  match shape value with
  | .error e => .error (.invalidSpecification (.shape e))
  | .ok s => s.validate.map fun _ => s

/-- The valid specification that a text holds. -/
def ofText (text : String) : Except QueryError Specification :=
  match Json.document? text with
  | none => .error (.invalidSpecification .unreadable)
  | some value => match shape value with
    | .error _ => .error (.invalidSpecification .unreadable)
    | .ok s => s.validate.map fun _ => s

theorem validate_eq_ok {s : Specification} :
    s.validate = .ok () ↔
      (s.clauses = [] ∨ s.groups = none) ∧ ∀ word ∈ s.conjunctions, isConjunction word := by
  rw [validate]
  -- The forms are checked first, and only one of them may be there.
  by_cases hboth : (!s.clauses.isEmpty && s.isGrouped) = true
  · rw [if_pos hboth]
    simp only [isGrouped, Bool.and_eq_true, Bool.not_eq_true', List.isEmpty_eq_false_iff,
      Option.isSome_iff_ne_none] at hboth
    simp [hboth.1, hboth.2]
  · have hforms : s.clauses = [] ∨ s.groups = none := by
      simp only [isGrouped, Bool.and_eq_true, Bool.not_eq_true', List.isEmpty_eq_false_iff,
        Option.isSome_iff_ne_none, not_and] at hboth
      by_cases hc : s.clauses = []
      · exact .inl hc
      · exact .inr (Classical.byContradiction (hboth hc))
    rw [if_neg hboth]
    -- Then the first conjunction that is none is looked for.
    cases hfind : s.conjunctions.find? fun word => !isConjunction word with
    | none =>
        simp only [List.find?_eq_none, Bool.not_eq_true', Bool.not_eq_false] at hfind
        simp only [true_iff]
        exact ⟨hforms, hfind⟩
    | some word =>
        have hbad := List.find?_some hfind
        simp only [Bool.not_eq_true'] at hbad
        simp only [reduceCtorEq, false_iff]
        intro h
        have hgood := h.2 word (List.mem_of_find?_eq_some hfind)
        rw [hbad] at hgood
        exact absurd hgood (by decide)

end Specification

/-- The fields of a filter that is to be sent as it is. -/
def rowFilterKeys : List String :=
  ["column_name", "filter_predicate", "filter_term", "filter_term_modifier"]

/-- One filter is an object with known fields. -/
def validateRowFilter : Json → Except QueryError Unit
  | .object fields =>
    match fields.find? fun field => !rowFilterKeys.contains field.1 with
    | some (key, _) => .error (.invalidSpecification (.unknownKey key))
    | none => .ok ()
  | _ => .error (.invalidSpecification .notObject)

/-- Filters are a list, not empty, of objects with known fields, under an exact conjunction. -/
def validateRowFilters (filters : Json) (conjunction : String) : Except QueryError Unit := do
  match filters with
  | .array [] => .error (.invalidSpecification .emptyList)
  | .array items =>
    items.forM validateRowFilter
    if conjunction = "And" ∨ conjunction = "Or" then .ok ()
    else .error (.invalidSpecification .rowConjunction)
  | _ => .error (.invalidSpecification .notList)

end GridQuery
