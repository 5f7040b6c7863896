import GridQuery.CommandLine.Arguments

/-!
# Requests

What is asked for by a command line: a command with the values that it needs, and how the answer is
to be written.

A path is a hyphen where the input is meant. Slashes after the hyphen, and dots between them, lead
nowhere, so that with them it is the same path.

## Main definitions

* `Source`, `Source.ofPath`: Where a text is read.
* `Request`: The commands.
* `Manner`: How answers are written.
* `Request.ofWords`: The request of a command line.
-/

namespace GridQuery

/-- How answers are written. -/
structure Manner where
  quiet : Bool
  json : Bool
  noColor : Bool
  deriving DecidableEq, Repr

/-- Which of the rows that were found are wanted. -/
inductive Wanted
  | all | first | count
  deriving DecidableEq, Repr

/-- Where a text is read: from the input or in a file. -/
inductive Source
  | input
  | file (path : String)
  deriving DecidableEq, Repr

namespace Source

/-- What a path stands for. -/
def ofPath (path : String) : Source :=
  match Text.splitOn '/' path.toList with
  | ['-'] :: steps =>
    if steps.all fun step => step.isEmpty || step == ['.'] then .input else .file path
  | _ => .file path

end Source

/-- The query that is asked for: the sources of the columns and the specification, the name of the
table, the page, and the day that counts as today. -/
structure SqlRequest where
  columns : Source
  specification : Source
  table : String
  start : Option Nat
  limit : Option Nat
  today : Option Date
  deriving DecidableEq

/-- The rows that are asked for: the source of the table, a condition, and which rows. -/
structure FilterRequest where
  table : Source
  condition : String
  wanted : Wanted
  deriving DecidableEq, Repr

/-- What is asked for. -/
inductive Request
  | overview
  | sql (request : SqlRequest)
  | filter (request : FilterRequest)
  | showSettings
  | settingsPath
  | completions (shell : String)
  deriving DecidableEq

namespace SqlRequest

/-- The request of a level that has been read; none if a value is missing. The specification is read
from the input by default. -/
def ofGiven? (given : Given) : Option SqlRequest := do
  let columns ← given.value? "columns"
  let table ← given.value? "table"
  let count (name : String) : Option Nat :=
    (given.value? name).bind fun word => Decimal.readBelow? Word.size64 word.toList
  some
    { columns := .ofPath columns
      specification := ((given.value? "spec").map Source.ofPath).getD .input
      table
      start := count "start"
      limit := count "limit"
      today := (given.value? "today").bind fun word => Date.readLoose? word.toList }

end SqlRequest

namespace FilterRequest

/-- The request of a level that has been read; none if a value is missing. -/
def ofGiven? (given : Given) : Option FilterRequest := do
  let table ← given.value? "table-file"
  let wanted := if given.has "count" then .count else if given.has "first" then .first else .all
  some ⟨.ofPath table, given.operands.headD "", wanted⟩

end FilterRequest

namespace Request

/-- The request of a command that has been read; none if a value is missing. -/
def ofGiven? (given : Given) : List String → Option Request
  | [] => some .overview
  | ["sql"] => (SqlRequest.ofGiven? given).map .sql
  | ["filter"] => (FilterRequest.ofGiven? given).map .filter
  | ["config"] | ["config", "show"] => some .showSettings
  | ["config", "path"] => some .settingsPath
  | ["completions"] => given.operands.head?.map .completions
  | _ => none

/-- The request of a command line, and the manner of its answer. -/
def ofWords (words : List String) : Except Stop (Request × Manner) := do
  let arguments ← Arguments.read words
  match ofGiven? arguments.last arguments.path with
  | none => .error .misuse
  | some request =>
    .ok (request, ⟨arguments.has "quiet", arguments.has "json", arguments.has "no-color"⟩)

end Request

end GridQuery
