import GridQuery.Filter.Specification
import GridQuery.Filter.Window
import GridQuery.Json.Printer
import GridQuery.Sql.Fragment
import GridQuery.Sql.Operator

/-!
# Clauses as Fragments

What a clause asks of its column becomes a formula. The operator of the column decides how the term
of the clause is read: as text, a number, a truth value, a list of options or a date.

Stored dates have a time of day, and a date in a query stands for its first moment. That a value is
on a day therefore needs the day and the next one, and that it is not needs a disjunction. A window
is cut at the first moment of its last day.

## Main definitions

* `Clause.termText`, `Clause.options`, `Clause.numeral`, `Clause.truth`: The readings of a term.
* `Clause.window`: The days that a clause means.
* `Clause.fragment`: The formula of a clause.
-/

namespace GridQuery

/-- The text of a term; truth values are capitalized, lists and objects are written as JSON. -/
def Json.termText : Json → String
  | .null => ""
  | .string s => s
  | .bool b => if b then "True" else "False"
  | .number n => n.text
  | term => term.compact

/-- The texts of the items of a term; a scalar is its own only item. -/
def Json.termItems : Json → List String
  | .null => []
  | .array items => items.map Json.termText
  | term => [term.termText]

/-- The relation that a predicate asks for. -/
def Predicate.relation : Predicate → Relation
  | .is | .equal => .equal
  | .isNot | .notEqual => .notEqual
  | .greater | .isAfter => .greater
  | .greaterOrEqual | .isOnOrAfter => .greaterOrEqual
  | .less | .isBefore => .less
  | _ => .lessOrEqual

/-- The membership that a predicate asks for. -/
def Predicate.membership : Predicate → Membership
  | .isNoneOf => .noneOf
  | .hasAllOf => .hasAllOf
  | .hasNoneOf => .hasNoneOf
  | .isExactly => .exactly
  | _ => .anyOf

namespace Clause

/-- The text of the term. -/
def termText (c : Clause) : String := c.term.termText

/-- The error of a term that is not what it should be. -/
def unfit (c : Clause) (kind : ColumnKind) (expected : Expectation) : QueryError :=
  .valueCoercion kind c.termText expected

/-- The term as a numeral: a number, or a text that, trimmed, names a finite double. -/
def numeral (c : Clause) (kind : ColumnKind) : Except QueryError String :=
  match c.term with
  | .number n => .ok n.text
  | .string s =>
    let trimmed := Text.trim s
    if (Binary64.read? trimmed.toList).any Binary64.isFinite then .ok trimmed
    else .error (c.unfit kind .number)
  | _ => .error (c.unfit kind .number)

/-- The term as a truth value, or as the name of one in any case. -/
def truth (c : Clause) (kind : ColumnKind) : Except QueryError Bool :=
  match c.term with
  | .bool b => .ok b
  | .string s =>
    if Text.sameIgnoringCase s "true" then .ok true
    else if Text.sameIgnoringCase s "false" then .ok false
    else .error (c.unfit kind .truthValue)
  | _ => .error (c.unfit kind .truthValue)

/-- The term as a list of options, not empty. -/
def options (c : Clause) (kind : ColumnKind) : Except QueryError (String × List String) :=
  match c.term.termItems with
  | [] => .error (c.unfit kind .options)
  | first :: rest => .ok (first, rest)

/-- The days that a clause means: what its modifier says, or the date that its term names. -/
def window (c : Clause) (today : Date) : Except QueryError Window :=
  match c.modifier? with
  | some text => do (← Modifier.read text).window today c.termText
  | none => match Date.ofTerm c.termText with
    | .ok d => .ok (.day d)
    | .error _ => .error (.invalidDateTerm c.termText .noModifierOrDate)

/-- The error of days that do not fit the predicate. -/
def misfit (c : Clause) (problem : DateProblem) : QueryError :=
  .invalidDateTerm (c.modifier?.getD "") problem

/-- The formula of a day. -/
def dayFragment (predicate : Predicate) (d : Date) : Except QueryError Fragment :=
  let test (relation : Relation) (d : Date) : Fragment := .test (.compare relation (.day d))
  let present : Fragment := .test .isNotNull
  match predicate with
  | .is => do
    let next ← d.shift 1
    .ok (.both (test .greaterOrEqual d) (test .less next))
  | .isNot => do
    let next ← d.shift 1
    let previous ← d.shift (-1)
    .ok (.both (.either (test .greaterOrEqual next) (test .lessOrEqual previous)) present)
  | .isAfter => .ok (test .greater d)
  | _ => .ok (.both (test predicate.relation d) present)

/-- The formula of a clause on a date. -/
def dateFragment (c : Clause) (today : Date) : Except QueryError Fragment := do
  match c.predicate, ← c.window today with
  | .isWithin, .range first last =>
    -- A date stands for its first moment, so that the whole last day is left out.
    .ok (.both (.test (.compare .greaterOrEqual (.day first)))
      (.test (.compare .less (.day last))))
  | .isWithin, .day _ => .error (c.misfit .noRange)
  | predicate, .day d => dayFragment predicate d
  | predicate, .range _ _ => .error (c.misfit (.noSingleDate predicate))

/-- The formula of a clause whose predicate the operator may be asked. -/
def operatorFragment (c : Clause) (kind : ColumnKind) (today : Date) :
    Operator → Except QueryError Fragment
  | .text => .ok <| .test <| match c.predicate with
    | .contains => .contains c.termText
    | .doesNotContain => .lacks c.termText
    | predicate => .compare predicate.relation (.text c.termText)
  | .number => do
    let numeral ← c.numeral kind
    .ok (.test (.compare c.predicate.relation (.numeral numeral)))
  | .singleSelect => match c.predicate with
    | .is | .isNot => .ok (.test (.compare c.predicate.relation (.text c.termText)))
    | predicate => do
      let (first, rest) ← c.options kind
      .ok (.test (.among predicate.membership (first :: rest)))
  | .multipleSelect => do
    let (first, rest) ← c.options kind
    .ok (.test (.among c.predicate.membership (first :: rest)))
  | .date => c.dateFragment today
  | .checkbox => do
    let truth ← c.truth kind
    .ok (.test (.compare .equal (.truth truth)))
  | .creator => match c.predicate with
    | .is | .isNot => .ok (.test (.compare c.predicate.relation (.text c.termText)))
    | .contains => do
      let (first, rest) ← c.options kind
      .ok (.test (.among .anyOf (first :: rest)))
    | _ => do
      let (first, rest) ← c.options kind
      let differs (id : String) : Fragment := .test (.compare .notSame (.text id))
      .ok (.conj (differs first) (rest.map differs))

/-- The formula of a clause on a column with an operator. -/
def fragment (c : Clause) (column : Column) (operator : Operator) (today : Date) :
    Except QueryError Fragment :=
  if c.predicate ∉ operator.predicates then
    .error (.unsupportedPredicate column.kind c.predicate operator.predicates)
  else match c.predicate with
    | .isEmpty => .ok (.test .isNull)
    | .isNotEmpty => .ok (.test .isNotNull)
    | _ => c.operatorFragment column.kind today operator

end Clause

end GridQuery
