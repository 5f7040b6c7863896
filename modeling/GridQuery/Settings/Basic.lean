import GridQuery.Json.Printer
import GridQuery.Json.Record
import GridQuery.Toml.Document

/-!
# Settings

What a user has set once for all: the page of a query where a command names none, and whether there
are colours. Settings are kept in a TOML document with a version, which must not be a later one than
this library knows. A table of settings may also be given as the array of its values.

## Main definitions

* `Settings`, `Settings.unset`: The settings.
* `Settings.read`: The settings that a text holds.
* `Settings.text`, `Settings.toJson`: Settings as TOML and as JSON.
* `Settings.path?`: Where settings are kept.
-/

namespace GridQuery

/-- What a user has set. -/
structure Settings where
  start : Option Nat
  limit : Option Nat
  color : Option Bool
  deriving DecidableEq, Repr

/-- Why a text holds no settings. -/
inductive SettingsProblem
  | unreadable
  | unsupported (version : Nat)
  deriving DecidableEq, Repr

/-- The variables that say where settings are kept. -/
structure Environment where
  settingsFile : Option String
  configHome : Option String
  home : Option String
  deriving DecidableEq, Repr

namespace Shape

variable {α : Type}

/-- A whole number below a bound. -/
def natBelow (bound : Nat) : Shape Nat
  | .number (.int n) => if 0 ≤ n ∧ n < bound then .ok n.toNat else .error .invalidValue
  | _ => .error .invalidType

def bool : Shape Bool
  | .bool b => .ok b
  | _ => .error .invalidType

/-- A record that as an array has all its fields; what follows them is not looked at. -/
def complete (count : Nat) (shape : Shape α) : Shape α
  | .array items =>
    if items.length < count then .error .invalidLength else shape (.array (items.take count))
  | value => shape value

end Shape

namespace Settings

/-- The version of the document that settings are kept in. -/
def version : Nat := 1

/-- Nothing is set. -/
def unset : Settings := ⟨none, none, none⟩

/-- The settings of the page of a query. -/
def queryShape : Shape Settings :=
  .complete 2 <| .record true unset
    [.of "start" false (.optional (.natBelow Word.size64)) fun s start => { s with start },
      .of "limit" false (.optional (.natBelow Word.size64)) fun s limit => { s with limit }]

/-- The settings of the output. -/
def outputShape : Shape Settings :=
  .complete 1 <| .record true unset
    [.of "color" false (.optional .bool) fun s color => { s with color }]

/-- A document: its version and the settings. -/
def documentShape : Shape (Nat × Settings) :=
  .record false (version, unset)
    [.of "version" false (.natBelow Word.size32) fun (_, s) version => (version, s),
      .of "query" false queryShape
        fun (version, s) q => (version, { s with start := q.start, limit := q.limit }),
      .of "output" false outputShape fun (version, s) o => (version, { s with color := o.color })]

/-- The settings that a text holds. -/
def read (text : String) : Except SettingsProblem Settings :=
  match (Toml.document? text).map documentShape with
  | some (.ok (found, settings)) =>
    if version < found then .error (.unsupported found) else .ok settings
  | _ => .error .unreadable

/-- A line that sets something. -/
def line {α : Type} (key : String) (render : α → String) (value : Option α) : String :=
  (value.map fun v => key ++ " = " ++ render v ++ "\n").getD ""

/-- The text of a number and of a truth value. -/
def natText (n : Nat) : String := .ofList (Decimal.digits n)

def boolText (b : Bool) : String := if b then "true" else "false"

/-- The settings as a TOML document. -/
def text (s : Settings) : String :=
  "version = " ++ natText version ++ "\n\n[query]\n" ++ line "start" natText s.start ++
    line "limit" natText s.limit ++ "\n[output]\n" ++ line "color" boolText s.color

def toJson (s : Settings) : Json :=
  let number (n : Nat) : Json := .number (.int n)
  .object [("output", .object (Json.fieldIf "color" (s.color.map .bool))),
    ("query", .object (Json.fieldIf "limit" (s.limit.map number) ++
      Json.fieldIf "start" (s.start.map number))),
    ("version", number version)]

/-- The path of a name in a directory; the empty directory is where the program runs. -/
def inDirectory (directory name : String) : String :=
  if directory.isEmpty || directory.endsWith "/" then directory ++ name
  else directory ++ "/" ++ name

/-- Where settings are kept: in the file that the environment names, or in the directory for
configuration, which is by default below the home directory. -/
def path? (e : Environment) : Option String :=
  match e.settingsFile, e.configHome, e.home with
  | some file, _, _ => some file
  | none, some directory, _ => some (inDirectory (inDirectory directory "stq") "config.toml")
  | none, none, some home =>
    if home.isEmpty then none
    else some (inDirectory (inDirectory (inDirectory home ".config") "stq") "config.toml")
  | none, none, none => none

end Settings

end GridQuery
