import GridQuery.Calendar.DateText

/-!
# Arguments

The words of a command line. They are read level by level: the program, a command, a command of that
command. Each level knows its switches, its options with a value, its operands and its commands; the
switches of the program are known at every level.

A word that begins with a hyphen is a switch or an option, unless it is a hyphen alone or comes
after two hyphens alone. Short switches may be written together. The value of an option is the rest
of its word or the next word, which must not begin with a hyphen. A level is checked for what it
lacks and for what excludes each other only when all its words are read, and so help that is asked
for before that is given.

## Main definitions

* `Level`: What the words of a level may be.
* `Given`: What was said at a level.
* `Level.read`: Reads the words of a level.
* `Level.find?`: The levels of the program.
* `Arguments.read`: Reads all words.
-/

namespace GridQuery

/-- A switch, or an option with the test that its value has to pass. -/
structure Parameter where
  long : String
  short : Option Char
  accepts : Option (String → Bool)

/-- What the words of a level may be; of the operands, some may be left out. -/
structure Level where
  about : String
  parameters : List Parameter
  operands : List (String → Bool)
  leastOperands : Nat
  required : List String
  exclusive : List (String × String)
  commands : List (String × String)

/-- What was said at a level. -/
structure Given where
  switches : List String
  values : List (String × String)
  operands : List String
  deriving DecidableEq, Repr

/-- Why reading ends early. -/
inductive Stop
  | help (level : Level)
  | misuse

namespace Given

def nothing : Given := ⟨[], [], []⟩

/-- A switch or an option has been given. -/
def has (given : Given) (name : String) : Bool :=
  given.switches.contains name || (given.values.lookup name).isSome

/-- The value of an option. -/
def value? (given : Given) (name : String) : Option String :=
  given.values.lookup name

/-- A switch, which may be given once. -/
def turnOn (given : Given) (p : Parameter) : Except Stop Given :=
  if given.has p.long then .error .misuse
  else .ok { given with switches := p.long :: given.switches }

/-- An option, which may be given once, and with a value that it accepts. -/
def set (given : Given) (p : Parameter) (value : String) : Except Stop Given :=
  if given.has p.long || !p.accepts.any fun accepts => accepts value then .error .misuse
  else .ok { given with values := (p.long, value) :: given.values }

end Given

namespace Level

/-- The command that a word names. -/
def command? (level : Level) (word : String) : Option String :=
  level.commands.lookup word

/-- Reads short switches that are written together; at the end an option may be left without its
value. -/
def readShort (level : Level) (given : Given) : List Char → Except Stop (Given × Option Parameter)
  | [] => .ok (given, none)
  | c :: cs =>
    if c = 'h' then .error (.help level)
    else match level.parameters.find? fun p => p.short == some c with
      | none => .error .misuse
      | some p =>
        if p.accepts.isNone then do readShort level (← given.turnOn p) cs
        else if cs.isEmpty then .ok (given, some p)
        else (given.set p (.ofList ((Text.after? '=' cs).getD cs))).map fun given => (given, none)

/-- Reads a long switch or an option, possibly with its value. -/
def readLong (level : Level) (given : Given) (cs : List Char) :
    Except Stop (Given × Option Parameter) :=
  let (name, value) := (Text.cut '=' cs).elim (cs, none) fun (name, value) => (name, some value)
  if name = ['h', 'e', 'l', 'p'] ∧ value = none then .error (.help level)
  else match level.parameters.find? (fun p => p.long == .ofList name), value with
    | none, _ => .error .misuse
    | some p, none =>
      if p.accepts.isSome then .ok (given, some p)
      else (given.turnOn p).map fun given => (given, none)
    | some p, some value =>
      if p.accepts.isSome then (given.set p (.ofList value)).map fun given => (given, none)
      else .error .misuse

/-- Reads an operand, if the level has one more. -/
def readOperand (level : Level) (given : Given) (word : String) : Except Stop Given :=
  if (level.operands[given.operands.length]?).any fun accepts => accepts word then
    .ok { given with operands := given.operands ++ [word] }
  else .error .misuse

/-- Reads the words of a level up to a command, which is given with the words after it. An option
may be waiting for its value, and two hyphens may have been read. -/
def read (level : Level) (given : Given) (waiting : Option Parameter) (escaped : Bool) :
    List String → Except Stop (Given × Option (String × List String))
  | [] => if waiting.isSome then .error .misuse else .ok (given, none)
  | word :: words =>
    match waiting with
    | some p =>
      if (Text.after? '-' word.toList).any fun rest => !rest.isEmpty then .error .misuse
      else do read level (← given.set p word) none escaped words
    | none =>
      if escaped then do read level (← level.readOperand given word) none true words
      else match word.toList with
        | ['-', '-'] => read level given none true words
        | '-' :: '-' :: cs => do
          let (given, waiting) ← level.readLong given cs
          read level given waiting false words
        | '-' :: c :: cs => do
          let (given, waiting) ← level.readShort given (c :: cs)
          read level given waiting false words
        | _ => match level.command? word with
          | some command => .ok (given, some (command, words))
          | none => do read level (← level.readOperand given word) none false words

/-- Nothing is missing, and nothing excludes each other. -/
def check (level : Level) (given : Given) : Except Stop Unit :=
  if level.required.all given.has && level.leastOperands ≤ given.operands.length &&
      level.exclusive.all fun (a, b) => !(given.has a && given.has b)
  then .ok () else .error .misuse

/-- The switches that are known at every level. -/
def common : List Parameter :=
  [⟨"verbose", some 'v', none⟩, ⟨"quiet", some 'q', none⟩, ⟨"json", none, none⟩,
    ⟨"no-color", none, none⟩]

/-- A level with the common switches. -/
def make (about : String) (parameters : List Parameter) (operands : List (String → Bool))
    (leastOperands : Nat) (required : List String) (exclusive : List (String × String))
    (commands : List (String × String)) : Level :=
  ⟨about, parameters ++ common, operands, leastOperands, required,
    ("quiet", "verbose") :: exclusive, commands⟩

/-- A level that has nothing but the common switches, and commands. -/
def plain (about : String) (commands : List (String × String)) : Level :=
  make about [] [] 0 [] [] commands

/-- The values of options: anything, a path, a number of rows, and a day. -/
def anything (_ : String) : Bool := true

def isPath (word : String) : Bool := !word.isEmpty

def isCount (word : String) : Bool := (Decimal.readBelow? Word.size64 word.toList).isSome

def isDay (word : String) : Bool := (Date.readLoose? word.toList).isSome

/-- The shells that completions are written for. -/
def shells : List String := ["bash", "zsh", "fish", "powershell"]

def program : Level :=
  plain "Command-line front end for the SeaTable query engine"
    [("sql", "sql"), ("filter", "filter"), ("f", "filter"), ("config", "config"),
      ("completions", "completions"), ("help", "help")]

def sql : Level :=
  make "Compile a filter specification into a SQL query"
    [⟨"columns", some 'c', some isPath⟩, ⟨"spec", some 's', some isPath⟩,
      ⟨"table", some 't', some anything⟩, ⟨"start", none, some isCount⟩,
      ⟨"limit", none, some isCount⟩, ⟨"today", none, some isDay⟩]
    [] 0 ["columns", "table"] [] []

def filter : Level :=
  make "Filter the rows of a table dump with a textual condition"
    [⟨"table-file", some 'f', some isPath⟩, ⟨"first", none, none⟩, ⟨"count", none, none⟩]
    [anything] 0 ["table-file"] [("first", "count")] []

def config : Level :=
  plain "View configuration" [("show", "show"), ("path", "path"), ("help", "help")]

def completions : Level :=
  make "Generate shell completions" [] [fun word => shells.contains word] 1 [] [] []

def help : Level :=
  make "Print this message or the help of the given subcommand(s)" [] [] 0 [] [] []

/-- The level of a command, given by the names on the way to it. -/
def find? : List String → Option Level
  | [] => some program
  | ["sql"] => some sql
  | ["filter"] => some filter
  | ["config"] => some config
  | ["config", "show"] => some (plain "Show current configuration" [])
  | ["config", "path"] => some (plain "Print config file path" [])
  | ["completions"] => some completions
  | ["help"] | ["config", "help"] => some help
  | _ => none

/-- The level that words name, starting from a level. -/
def named? (path : List String) : List String → Option Level
  | [] => find? path
  | word :: words => do
    let command ← (← find? path).command? word
    named? (path ++ [command]) words

end Level

/-- A command, by the names on the way to it, and what was said at each level. -/
structure Arguments where
  path : List String
  levels : List Given
  deriving DecidableEq, Repr

namespace Arguments

/-- Reads words from a level on; the bound is on the number of levels. -/
def readFrom : Nat → List String → List String → Except Stop Arguments
  | 0, _, _ => .error .misuse
  | bound + 1, path, words =>
    match Level.find? path with
    | none => .error .misuse
    | some level => do
      match ← level.read .nothing none false words with
      | (given, none) =>
        level.check given
        .ok ⟨path, [given]⟩
      | (_, some ("help", words)) =>
        .error (((Level.named? path words).map Stop.help).getD .misuse)
      | (given, some (command, words)) =>
        let deeper ← readFrom bound (path ++ [command]) words
        level.check given
        .ok { deeper with levels := given :: deeper.levels }

/-- Reads all words of a command line. -/
def read (words : List String) : Except Stop Arguments :=
  readFrom 3 [] words

/-- A switch that is known at every level has been given at one of them. -/
def has (arguments : Arguments) (name : String) : Bool :=
  arguments.levels.any fun given => given.has name

/-- What was said at the level of the command. -/
def last (arguments : Arguments) : Given :=
  arguments.levels.getLast?.getD .nothing

end Arguments

end GridQuery
