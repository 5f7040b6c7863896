import GridQuery.Cell.Comparison
import GridQuery.Filter.Predicate
import GridQuery.Json.Record

/-!
# Errors

Everything that can go wrong with a condition, a value, a specification or a store, as causes. What
the user is told about a cause is decided here and nowhere else.

## Main definitions

* `SyntaxError`: Why a condition text is not a condition.
* `Expectation`: What a value should have been.
* `DateProblem`: Why a date filter term has no date.
* `SpecificationProblem`: Why a filter specification is refused.
* `StoreProblem`: What a store does not have.
* `QueryError`, `QueryError.message`: All causes and their wording.
-/

namespace GridQuery

/-- Why a condition text is not a condition. -/
inductive SyntaxError
  | emptyCondition
  | unexpectedToken (text : String)
  | unexpectedEnd
  | unterminatedString (position : Nat)
  deriving DecidableEq, Repr

/-- What a value should have been. -/
inductive Expectation
  | numberInput
  | dateInput
  | checkboxInput
  | number
  | truthValue
  | options
  deriving DecidableEq, Repr

/-- Why a date filter term has no date. -/
inductive DateProblem
  | unknownModifier
  | noDayCount
  | noDate
  | noModifierOrDate
  | dateOutOfRange
  | yearOutOfRange
  | noRange
  | noSingleDate (predicate : Predicate)
  deriving DecidableEq, Repr

/-- Why a filter specification is refused. -/
inductive SpecificationProblem
  | bothForms
  | conjunction (text : String)
  | shape (error : ShapeError)
  | unreadable
  | notList
  | emptyList
  | notObject
  | unknownKey (key : String)
  | rowConjunction
  deriving DecidableEq, Repr

/-- What a store does not have. -/
inductive StoreProblem
  | noTable (name : String)
  | noRow (id : String)
  deriving DecidableEq, Repr

/-- Everything that can go wrong with a query. -/
inductive QueryError
  | badSyntax (error : SyntaxError)
  | columnNotFound (column : String)
  | unsupportedPredicate (kind : ColumnKind) (predicate : Predicate) (supported : List Predicate)
  | unsupportedColumnType (kind : ColumnKind)
  | unsupportedComparison (kind : ColumnKind) (comparison : Comparison)
  | invalidLikePattern (pattern : String)
  | valueCoercion (kind : ColumnKind) (value : String) (expected : Expectation)
  | ambiguousComparison (comparison : Comparison)
  | invalidDateTerm (term : String) (problem : DateProblem)
  | invalidSpecification (problem : SpecificationProblem)
  | dataSource (problem : StoreProblem)
  deriving DecidableEq, Repr

def SyntaxError.message : SyntaxError → String
  | .emptyCondition => "condition is empty"
  | .unexpectedToken text => "unexpected token: " ++ text
  | .unexpectedEnd => "unexpected end of condition"
  | .unterminatedString position =>
    "unterminated string starting at position " ++ .ofList (Nat.toDigits 10 position)

def Expectation.message : Expectation → String
  | .numberInput => "\"\" or digital numbers"
  | .dateInput =>
    "\"YYYY-MM-DD\", \"YYYY-MM-DD hh\", \"YYYY-MM-DD hh:mm\" or \"YYYY-MM-DD hh:mm:ss\""
  | .checkboxInput => "\"true\" or \"false\", case insensitive"
  | .number => "a number"
  | .truthValue => "true or false"
  | .options => "a non-empty list of options"

def DateProblem.message : DateProblem → String
  | .unknownModifier => "unknown filter term modifier"
  | .noDayCount => "expected a number of days"
  | .noDate => "expected a date as YYYY-MM-DD"
  | .noModifierOrDate => "expected a filter term modifier or a date as YYYY-MM-DD"
  | .dateOutOfRange => "date out of range"
  | .yearOutOfRange => "year out of range"
  | .noRange => "is_within needs a modifier that resolves to a date range"
  | .noSingleDate predicate =>
    predicate.name ++ " needs a modifier that resolves to a single date"

/-- The wording of a refusal; what is wrong with an unreadable text is not worded. -/
def SpecificationProblem.message : SpecificationProblem → String
  | .bothForms => "filters and filter_groups cannot be used together"
  | .conjunction text => "conjunction must be 'And' or 'Or', got '" ++ text ++ "'"
  | .shape error => error.message
  | .unreadable => "<json>"
  | .notList => "filters must be a list"
  | .emptyList => "filters can not be empty"
  | .notObject => "each filter must be an object"
  | .unknownKey key => "unknown filter key '" ++ key ++ "'"
  | .rowConjunction => "filter_conjunction must be 'And' or 'Or'"

def StoreProblem.message : StoreProblem → String
  | .noTable name => "table '" ++ name ++ "' not found"
  | .noRow id => "row '" ++ id ++ "' not found"

/-- The wording of an error. -/
def QueryError.message : QueryError → String
  | .badSyntax error => "syntax error: " ++ error.message
  | .columnNotFound column => "Column not found: " ++ column
  | .unsupportedPredicate kind predicate supported =>
    kind.name ++ " type column does not support '" ++ predicate.name ++
      "', available predicates are [" ++
      ", ".intercalate (supported.map fun p => "'" ++ p.name ++ "'") ++ "]"
  | .unsupportedColumnType kind =>
    kind.name ++ " type column does not support transferring filter to sql"
  | .unsupportedComparison kind comparison =>
    kind.name ++ " type column does not support the query method '" ++ comparison.symbol ++ "'"
  | .invalidLikePattern pattern =>
    "there is no pattern found in like phrase \"" ++ pattern ++ "\""
  | .valueCoercion kind value expected =>
    kind.name ++ " type column does not support the query string \"" ++ value ++
      "\", expected " ++ expected.message
  | .ambiguousComparison comparison =>
    "the operator \"" ++ comparison.symbol ++ "\" does not support the null query string \"\""
  | .invalidDateTerm term problem =>
    "cannot resolve date filter term \"" ++ term ++ "\": " ++ problem.message
  | .invalidSpecification problem => "invalid filter specification: " ++ problem.message
  | .dataSource problem => "data source error: " ++ problem.message

end GridQuery
