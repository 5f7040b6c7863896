import GridQuery.CommandLine.Failure
import GridQuery.CommandLine.Request
import GridQuery.Sql.Query
import GridQuery.Table.Selection
import GridQuery.View.Table

/-!
# Running Commands

What the program does for a command line. It sees the world through `Surroundings` alone: the
environment, the files, the input and the date. Whatever they are, the rest is a function.

The settings are read first, and faulty settings stop every command, even one that only shows where
they are. Then the inputs of the command are read in order, columns before the specification.

## Main definitions

* `Surroundings`: What the program sees of the world.
* `Outcome`: How the program ends.
* `run`: What the program does.
-/

namespace GridQuery

/-- What the program sees of the world. -/
structure Surroundings (m : Type → Type) where
  environment : Environment
  file : String → m (Except ReadFault String)
  input : m (Except ReadFault String)
  today : m Date

/-- How the program ends: with a code, an output and what is said of errors; with help; or because
the words of the command line make no request. -/
inductive Outcome
  | finished (code : Nat) (output errors : String)
  | help (level : Level)
  | misuse

variable {m : Type → Type} [Monad m]

namespace Surroundings

/-- What is read from a source. -/
def read (s : Surroundings m) : Source → m (Except ReadFault String)
  | .input => s.input
  | .file path => s.file path

/-- The text of a source. -/
def text (s : Surroundings m) (source : Source) : ExceptT Failure m String := do
  match ← s.read source with
  | .ok text => pure text
  | .error fault => throw (.io fault)

/-- Where the settings are kept. -/
def settingsPath (s : Surroundings m) : ExceptT Failure m String :=
  match Settings.path? s.environment with
  | some path => pure path
  | none => throw (.config .noDirectory)

/-- The settings; nothing is set where there is no file. -/
def settings (s : Surroundings m) : ExceptT Failure m Settings := do
  match ← s.file (← s.settingsPath) with
  | .error fault => if fault.present then throw (.config (.unread fault)) else pure .unset
  | .ok text => match Settings.read text with
    | .ok settings => pure settings
    | .error problem => throw (.config (.settings problem))

end Surroundings

/-- A value or a failure, as an answer of a command. -/
def answer {ε α : Type} (cause : ε → Failure) : Except ε α → ExceptT Failure m α
  | .ok a => pure a
  | .error e => throw (cause e)

/-- A value on lines of its own. -/
def prettyLine (value : Json) : String := value.pretty ++ "\n"

namespace SqlRequest

/-- The text of the query that is asked for. -/
def query (r : SqlRequest) (s : Surroundings m) (settings : Settings) :
    ExceptT Failure m String := do
  if r.columns = .input ∧ r.specification = .input then throw (.config .twiceInput)
  let columns ← answer .ofMetadata (Column.listOfText (← s.text r.columns))
  let specification ← answer .query (Specification.ofText (← s.text r.specification))
  let today ← match r.today with
    | some today => pure today
    | none => liftM s.today
  let start := (r.start.or settings.start).getD Query.defaultStart
  let limit := (r.limit.or settings.limit).getD Query.defaultLimit
  let query ← answer .query (specification.query r.table columns today start limit)
  pure query.text

/-- What is written for a query. -/
def output (r : SqlRequest) (manner : Manner) (sql : String) : String :=
  if manner.json then prettyLine (.object [("table", .string r.table), ("sql", .string sql)])
  else sql ++ "\n"

end SqlRequest

namespace FilterRequest

/-- The rows that the condition selects. -/
def selection (r : FilterRequest) (s : Surroundings m) : ExceptT Failure m Selection := do
  let some table := Table.ofText? (← s.text r.table) | throw (.document .unreadable)
  answer .query (Selection.make table.name table.columns table.rows r.condition)

/-- What is written for a selection. -/
def output (r : FilterRequest) (manner : Manner) (colors : Bool) (found : Selection) : String :=
  let count := found.rows.length
  let table (rows : List Row) : String :=
    if manner.quiet then "" else View.table found.columns rows colors
  match r.wanted, manner.json with
  | .count, true => (Json.object [("count", .number (.int count))]).compact ++ "\n"
  | .count, false => Settings.natText count ++ "\n"
  | .first, true => prettyLine ((found.rows.head?.map Row.toJson).getD .null)
  | .first, false => table (found.rows.take 1)
  | .all, true => prettyLine (View.rows found.tableName found.rows)
  | .all, false => table found.rows

end FilterRequest

/-- What is written of settings. -/
def Settings.output (settings : Settings) (path : String) (manner : Manner) (colors : Bool) :
    String :=
  if manner.json then
    prettyLine (.object [("config", settings.toJson), ("path", .string path)])
  else
    Style.bold.paint colors (Style.green.paint colors "Configuration") ++ "\n" ++
      Style.dimmed.paint colors "Path:" ++ " " ++ path ++ "\n\n" ++ settings.text

/-- A script that lets a shell complete the names of the commands. -/
def completionScript (shell : String) : String :=
  let names := " ".intercalate (Level.program.commands.map Prod.fst)
  match shell with
  | "fish" => "complete -c stq -f -a '" ++ names ++ "'\n"
  | "zsh" => "compctl -k '(" ++ names ++ ")' stq\n"
  | "powershell" =>
    "Register-ArgumentCompleter -Native -CommandName stq -ScriptBlock \x7b -split '" ++ names ++
      "' \x7d\n"
  | _ => "complete -W '" ++ names ++ "' stq\n"

/-- The answer to a request; help has none of its own. -/
def Request.answer (request : Request) (manner : Manner) (s : Surroundings m) :
    ExceptT Failure m Outcome := do
  let settings ← s.settings
  let colors := !manner.noColor && settings.color.getD true
  let finished (output : String) : ExceptT Failure m Outcome := pure (.finished 0 output "")
  match request with
  | .overview => pure (.help .program)
  | .sql r => do finished (r.output manner (← r.query s settings))
  | .filter r => do finished (r.output manner colors (← r.selection s))
  | .showSettings => do finished (settings.output (← s.settingsPath) manner colors)
  | .settingsPath => do
    let path ← s.settingsPath
    finished (if manner.json then prettyLine (.object [("path", .string path)]) else path ++ "\n")
  | .completions shell => finished (completionScript shell)

/-- What the program does for the words of a command line. -/
def run (s : Surroundings m) (words : List String) : m Outcome :=
  match Request.ofWords words with
  | .error (.help level) => pure (.help level)
  | .error .misuse => pure .misuse
  | .ok (request, manner) => do
    match ← (request.answer manner s).run with
    | .ok outcome => pure outcome
    | .error failure => pure (.finished failure.exitCode "" (failure.report manner.json))

end GridQuery
