import GridQuery.Toml.Scalar
import GridQuery.Toml.Table

/-!
# TOML Documents

Reading a TOML document (version 1.0) to the JSON object that it describes. A document is a row of
statements, one a line: a header, which says which table is filled next, or a key with a value.
Arrays and inline tables may be nested, and the reader of a nested value is given the depth that is
left; arrays may run over several lines, inline tables may not.

## Main definitions

* `Toml.key`: A dotted key.
* `Toml.value`: A value.
* `Toml.statement?`: One line of a document.
* `Toml.document?`: The object that a document describes.
-/

namespace GridQuery

namespace Toml

open Text (Reader)

/-- Arrays and inline tables are nested, and keys are dotted, less often than this. -/
def maxDepth : Nat := 80

/-- A character of a key without quotes. -/
def isKeyChar (c : Char) : Bool :=
  c.isAlphanum || c = '-' || c = '_'

/-- One part of a key, in quotes or bare. -/
def simpleKey : Reader (List Char)
  | '"' :: rest => basicText rest
  | '\'' :: rest => literalText rest
  | cs =>
    let bare := cs.takeWhile isKeyChar
    if bare.isEmpty then none else some (bare, cs.dropWhile isKeyChar)

/-- One part of a key, with the blanks around it. -/
def keyPart : Reader String := fun cs => do
  let (chars, rest) ← simpleKey (skipSpace cs)
  some (.ofList chars, skipSpace rest)

/-- A dotted key, with the blanks around it. -/
def key : Reader (List String) :=
  Text.separated keyPart '.' (maxDepth - 1)

/-- The text after a comment, which ends before its line end. -/
def dropComment? : List Char → Option (List Char)
  | [] => some []
  | c :: cs =>
    if c = '\n' || c = '\r' then some (c :: cs)
    else if isPrintable c then dropComment? cs
    else none

/-- The text after blanks and a comment up to the end of a line. -/
def lineEnd? (cs : List Char) : Option (List Char) := do
  let rest ← match skipSpace cs with
    | '#' :: comment => dropComment? comment
    | cs => some cs
  if rest.isEmpty then some [] else newline? rest

/-- The text after blanks, line ends and comments; in a comment, or not. -/
def skipLines? : Bool → List Char → Option (List Char)
  | _, [] => some []
  | _, '\r' :: '\n' :: cs => skipLines? false cs
  | inComment, c :: cs =>
    if c = '\n' then skipLines? false cs
    else if inComment then if isPrintable c then skipLines? true cs else none
    else if c = '#' then skipLines? true cs
    else if isSpace c then skipLines? false cs
    else some (c :: cs)

/-- The items of an array after its opening bracket, and the bracket that closes it. The bound is on
the number of items. -/
def arrayItems (item : Reader Json) : Nat → Reader (List Json)
  | 0, _ => none
  | bound + 1, cs => do
    match ← skipLines? false cs with
    | ']' :: rest => some ([], rest)
    | cs =>
      let (first, rest) ← item cs
      match ← skipLines? false rest with
      | ']' :: rest => some ([first], rest)
      | ',' :: rest => do
        let (others, rest) ← arrayItems item bound rest
        some (first :: others, rest)
      | _ => none

/-- A key and its value, with the blanks around them. -/
def pair (item : Reader Json) : Reader (List String × Json) := fun cs => do
  let (path, rest) ← key cs
  match rest with
  | '=' :: rest =>
    let (value, rest) ← item (skipSpace rest)
    some ((path, value), skipSpace rest)
  | _ => none

/-- An inline table after its opening brace, and the brace that closes it. -/
def inlineTable (item : Reader Json) : Reader Json := fun cs =>
  match skipSpace cs with
  | '\x7d' :: rest => some (.object [], rest)
  | cs => do
    let (pairs, rest) ← Text.separated (pair item) ',' cs.length cs
    let entries ← pairs.foldlM (fun entries (path, value) => assign? value path entries) []
    match rest with
    | '\x7d' :: rest => some (.object (entriesJson entries), rest)
    | _ => none

/-- A value whose arrays and inline tables are nested at most so deep. -/
def value : Nat → Reader Json
  | depth, cs =>
    match cs with
    | '"' :: _ | '\'' :: _ => (string cs).map fun (chars, rest) => (.string (.ofList chars), rest)
    | '[' :: rest =>
      match depth with
      | 0 => none
      | depth + 1 =>
        (arrayItems (value depth) cs.length rest).map fun (items, rest) => (.array items, rest)
    | '\x7b' :: rest =>
      match depth with
      | 0 => none
      | depth + 1 => inlineTable (value depth) rest
    | _ => wordValue cs

/-- A document while it is read: the tree, and the path of the table that is being filled. -/
structure State where
  entries : Entries
  path : List String

/-- One statement at the start of a text, and the text after its line. -/
def statement? (state : State) (cs : List Char) : Option (State × List Char) :=
  match cs with
  | '[' :: '[' :: rest => do
    let (path, rest) ← key rest
    let rest ← Text.after? ']' rest
    let rest ← lineEnd? (← Text.after? ']' rest)
    some (⟨← openElement? path state.entries, path⟩, rest)
  | '[' :: rest => do
    let (path, rest) ← key rest
    let rest ← lineEnd? (← Text.after? ']' rest)
    some (⟨← openTable? path state.entries, path⟩, rest)
  | cs => do
    let ((path, value), rest) ← pair (value (maxDepth - 1)) cs
    let entries ← within? (assign? value path) state.path state.entries
    some ({ state with entries }, ← lineEnd? rest)

/-- Reads statements up to the end of a text. The bound is on their number. -/
def statements? : Nat → State → List Char → Option State
  | 0, _, _ => none
  | bound + 1, state, cs => do
    match ← skipLines? false cs with
    | [] => some state
    | cs =>
      let (state, rest) ← statement? state cs
      statements? bound state rest

/-- The object that a document describes; a byte order mark may stand before it. -/
def document? (s : String) : Option Json := do
  let cs := (Text.after? '\ufeff' s.toList).getD s.toList
  let state ← statements? (cs.length + 1) ⟨[], []⟩ cs
  some (.object (entriesJson state.entries))

end Toml

end GridQuery
