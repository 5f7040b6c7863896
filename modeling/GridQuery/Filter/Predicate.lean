/-!
# Filter Predicates

What a filter clause may ask of a column, under the names that specifications use.

## Main definitions

* `Predicate`, `Predicate.name`, `Predicate.ofName?`: The predicates and their names.

## Theorems

* `Predicate.ofName?_name`: A predicate is found under its name.
-/

namespace GridQuery

/-- What a filter clause asks of a column. -/
inductive Predicate
  | contains | doesNotContain | is | isNot | equal | notEqual | less | greater | lessOrEqual
  | greaterOrEqual | isEmpty | isNotEmpty | isWithin | isBefore | isAfter | isOnOrBefore
  | isOnOrAfter | hasAnyOf | hasAllOf | hasNoneOf | isExactly | isAnyOf | isNoneOf
  deriving DecidableEq, Repr

namespace Predicate

/-- The name of a predicate in a specification. -/
def name : Predicate → String
  | .contains => "contains"
  | .doesNotContain => "does_not_contain"
  | .is => "is"
  | .isNot => "is_not"
  | .equal => "equal"
  | .notEqual => "not_equal"
  | .less => "less"
  | .greater => "greater"
  | .lessOrEqual => "less_or_equal"
  | .greaterOrEqual => "greater_or_equal"
  | .isEmpty => "is_empty"
  | .isNotEmpty => "is_not_empty"
  | .isWithin => "is_within"
  | .isBefore => "is_before"
  | .isAfter => "is_after"
  | .isOnOrBefore => "is_on_or_before"
  | .isOnOrAfter => "is_on_or_after"
  | .hasAnyOf => "has_any_of"
  | .hasAllOf => "has_all_of"
  | .hasNoneOf => "has_none_of"
  | .isExactly => "is_exactly"
  | .isAnyOf => "is_any_of"
  | .isNoneOf => "is_none_of"

def all : List Predicate :=
  [.contains, .doesNotContain, .is, .isNot, .equal, .notEqual, .less, .greater, .lessOrEqual,
    .greaterOrEqual, .isEmpty, .isNotEmpty, .isWithin, .isBefore, .isAfter, .isOnOrBefore,
    .isOnOrAfter, .hasAnyOf, .hasAllOf, .hasNoneOf, .isExactly, .isAnyOf, .isNoneOf]

/-- The predicate with a name. -/
def ofName? (name : String) : Option Predicate :=
  all.find? fun predicate => predicate.name == name

theorem ofName?_name (predicate : Predicate) : ofName? predicate.name = some predicate := by
  cases predicate <;> decide

end Predicate

end GridQuery
