import GridQuery.Error
import GridQuery.Json.Printer
import GridQuery.Settings.Basic
import GridQuery.Table.Metadata

/-!
# Failures of Commands

Why a command ends without its answer, what the user is told, and the code that the program ends
with. A failure is told in one line, or as a JSON object where JSON is asked for.

## Main definitions

* `ReadFault`: Why a file cannot be read.
* `Failure`, `Failure.message`: The causes and their wording.
* `Failure.exitCode`, `Failure.code`: What a program sees of a cause.
* `Failure.report`: What is written of a failure.
-/

namespace GridQuery

/-- Why a file cannot be read: whether there is something at its path, and the wording of the
system. -/
structure ReadFault where
  present : Bool
  text : String
  deriving DecidableEq, Repr

/-- What is wrong with the settings or the inputs of a command. -/
inductive ConfigProblem
  | noDirectory
  | unread (fault : ReadFault)
  | settings (problem : SettingsProblem)
  | twiceInput
  | metadataForm
  deriving DecidableEq, Repr

/-- Why a document is not what it should be; of a text, no more is told. -/
inductive DocumentProblem
  | unreadable
  | shape (error : ShapeError)
  deriving DecidableEq, Repr

/-- Why a command ends without its answer. -/
inductive Failure
  | query (error : QueryError)
  | config (problem : ConfigProblem)
  | io (fault : ReadFault)
  | document (problem : DocumentProblem)
  deriving DecidableEq, Repr

def SettingsProblem.message : SettingsProblem → String
  | .unreadable => "Failed to parse config: <toml>\n"
  | .unsupported version =>
    "Unsupported config version " ++ Settings.natText version ++ " (expected at most " ++
      Settings.natText Settings.version ++ ")"

def ConfigProblem.message : ConfigProblem → String
  | .noDirectory => "Could not determine config directory"
  | .unread fault => "Failed to read config: " ++ fault.text
  | .settings problem => problem.message
  | .twiceInput => "columns and specification cannot both be read from stdin"
  | .metadataForm => "column metadata must be a JSON array or an object with a \"columns\" field"

def DocumentProblem.message : DocumentProblem → String
  | .unreadable => "<json>"
  | .shape error => error.message

namespace Failure

/-- The failure of a text that holds no columns. -/
def ofMetadata : MetadataProblem → Failure
  | .notJson => .document .unreadable
  | .shape error => .document (.shape error)
  | .form => .config .metadataForm

/-- The wording of a failure. -/
def message : Failure → String
  | .query error => "query error: " ++ error.message
  | .config problem => "configuration error: " ++ problem.message
  | .io fault => "I/O error: " ++ fault.text
  | .document problem => "serialization error: " ++ problem.message

/-- The name of a failure in JSON. -/
def code : Failure → String
  | .query (.badSyntax _) => "SYNTAX_ERROR"
  | .query (.columnNotFound _) => "COLUMN_NOT_FOUND"
  | .query (.invalidSpecification _) => "INVALID_SPECIFICATION"
  | .query (.dataSource _) => "DATA_SOURCE_ERROR"
  | .query _ => "QUERY_ERROR"
  | .config _ => "CONFIG_ERROR"
  | .io _ => "IO_ERROR"
  | .document _ => "JSON_ERROR"

/-- The code that the program ends with. -/
def exitCode : Failure → Nat
  | .query (.dataSource _) => 2
  | .query _ | .document _ => 1
  | .io _ => 3
  | .config _ => 5

/-- The wording ends its line itself: what is wrong with a settings text is told in lines of its
own. -/
def endsLine : Failure → Bool
  | .config (.settings .unreadable) => true
  | _ => false

/-- What is written of a failure. -/
def report (failure : Failure) (json : Bool) : String :=
  if json then
    (Json.object [("error", .object [("code", .string failure.code),
      ("message", .string failure.message)])]).pretty ++ "\n"
  else "Error: " ++ failure.message ++ if failure.endsLine then "" else "\n"

end Failure

end GridQuery
