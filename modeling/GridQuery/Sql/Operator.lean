import GridQuery.Column.Basic
import GridQuery.Error

/-!
# Operators

An operator is what a filter may ask of a column. The kind of a column decides its operator; a
formula has the operator of what it computes. Some kinds have none.

## Main definitions

* `Operator`, `Operator.ofColumn`: The operators, and that of a column.
* `Operator.predicates`: What an operator may be asked.
-/

namespace GridQuery

/-- What a filter may ask of a column. -/
inductive Operator
  | text | number | singleSelect | multipleSelect | date | checkbox | creator
  deriving DecidableEq, Repr

namespace Operator

/-- The operator of a formula; one whose result is not declared is text. -/
def ofResult : Option FormulaResult → Operator
  | some .number => .number
  | some .date => .date
  | some .bool => .checkbox
  | _ => .text

/-- The operator of a column, if its kind has one. -/
def ofColumn (c : Column) : Except QueryError Operator :=
  match c.kind with
  | .text | .url | .autoNumber | .email | .geolocation => .ok .text
  | .duration | .number | .rate => .ok .number
  | .checkbox => .ok .checkbox
  | .date | .ctime | .mtime => .ok .date
  | .singleSelect => .ok .singleSelect
  | .multipleSelect | .collaborator | .link => .ok .multipleSelect
  | .creator | .lastModifier => .ok .creator
  | .formula | .linkFormula => .ok (ofResult c.resultType)
  | .default | .longText | .image | .file | .button => .error (.unsupportedColumnType c.kind)

/-- What an operator may be asked, in the order in which errors list it. -/
def predicates : Operator → List Predicate
  | .text => [.contains, .doesNotContain, .is, .isNot, .isEmpty, .isNotEmpty]
  | .number =>
    [.equal, .notEqual, .greater, .greaterOrEqual, .less, .lessOrEqual, .isEmpty, .isNotEmpty]
  | .singleSelect => [.isAnyOf, .isNoneOf, .is, .isNot, .isEmpty, .isNotEmpty]
  | .multipleSelect => [.hasAnyOf, .hasNoneOf, .hasAllOf, .isExactly, .isEmpty, .isNotEmpty]
  | .date =>
    [.is, .isNot, .isAfter, .isBefore, .isOnOrBefore, .isOnOrAfter, .isEmpty, .isNotEmpty,
      .isWithin]
  | .checkbox => [.is]
  | .creator => [.contains, .doesNotContain, .is, .isNot]

end Operator

end GridQuery
