import GridQuery.Json.Literal
import GridQuery.Text.Reader

/-!
# Read JSON

Reading a document from text. The reader of the items of an array or an object is given the reader
of one item, so that the nesting of readers follows the nesting of values, which is bounded, and no
reader refers to itself.

Objects keep their fields as written; see `Json.normal`.

## Main definitions

* `Json.maxDepth`: How deep arrays and objects may be nested.
* `Json.nested`, `Json.value`: The readers of values.
* `Json.document?`: The document that a text is.
* `Json.parse?`: The value that a text stands for.
-/

namespace GridQuery

namespace Json

open Text (Reader)

variable {α : Type}

/-- The blanks between the tokens of a document. -/
def isSpace (c : Char) : Bool :=
  c = ' ' || c = '\t' || c = '\n' || c = '\r'

def skip (cs : List Char) : List Char :=
  cs.dropWhile isSpace

/-- The number of four hexadecimal digits. -/
def hexNumber? (a b c d : Char) : Option Nat := do
  let high := (← Text.hexValue? a) * 16 + (← Text.hexValue? b)
  let low := (← Text.hexValue? c) * 16 + (← Text.hexValue? d)
  some (high * 256 + low)

/-- The character that a short escape stands for. -/
def shortEscape? : Char → Option Char
  | '"' => some '"'
  | '\\' => some '\\'
  | '/' => some '/'
  | 'b' => some '\x08'
  | 'f' => some '\x0c'
  | 'n' => some '\n'
  | 'r' => some '\r'
  | 't' => some '\t'
  | _ => none

/-- The characters up to the closing quote. A numeric escape stands for a character, or two of them
for a character beyond the first 65536; half of such a pair is refused, and so is a bare control
character. -/
def stringBody : Reader (List Char)
  | [] => none
  | '"' :: rest => some ([], rest)
  | '\\' :: 'u' :: a :: b :: c :: d :: rest => do
    let n ← hexNumber? a b c d
    if 0xDC00 ≤ n ∧ n ≤ 0xDFFF then none
    else if 0xD800 ≤ n ∧ n ≤ 0xDBFF then
      match rest with
      | '\\' :: 'u' :: e :: f :: g :: h :: rest => do
        let m ← hexNumber? e f g h
        if 0xDC00 ≤ m ∧ m ≤ 0xDFFF then
          let (chars, rest) ← stringBody rest
          some (.ofNat (0x10000 + (n - 0xD800) * 0x400 + (m - 0xDC00)) :: chars, rest)
        else none
      | _ => none
    else
      let (chars, rest) ← stringBody rest
      some (.ofNat n :: chars, rest)
  | '\\' :: c :: rest => do
    let escaped ← shortEscape? c
    let (chars, rest) ← stringBody rest
    some (escaped :: chars, rest)
  | c :: rest =>
    if c.toNat < 32 then none
    else do
      let (chars, rest) ← stringBody rest
      some (c :: chars, rest)

/-- A string, from its opening quote on. -/
def stringToken : Reader String
  | '"' :: rest => (stringBody rest).map fun (chars, rest) => (.ofList chars, rest)
  | _ => none

/-- A value that is written as a word. -/
def word : Reader Json
  | 'n' :: 'u' :: 'l' :: 'l' :: rest => some (.null, rest)
  | 't' :: 'r' :: 'u' :: 'e' :: rest => some (.bool true, rest)
  | 'f' :: 'a' :: 'l' :: 's' :: 'e' :: rest => some (.bool false, rest)
  | _ => none

/-- A value that is neither an array nor an object. -/
def scalar : Reader Json
  | '"' :: rest => (stringBody rest).map fun (chars, rest) => (.string (.ofList chars), rest)
  | cs => (word cs).or do
    let (literal, rest) ← Literal.take? cs
    some (.number (← literal.number?), rest)

/-- Items separated by commas, from the one at a place on and up to the closing bracket. The bound
is on the number of items. -/
def items (item : Nat → Reader α) (closing : Char) : Nat → Nat → Reader (List α)
  | 0, _, _ => none
  | bound + 1, place, cs => do
    let (first, rest) ← item place (skip cs)
    match skip rest with
    | c :: rest =>
      if c = closing then some ([first], rest)
      else if c = ',' then do
        let (others, rest) ← items item closing bound (place + 1) rest
        some (first :: others, rest)
      else none
    | [] => none

/-- What stands between an opening bracket and its closing one, possibly nothing; how an item is
read may depend on its place. -/
def bracketed (item : Nat → Reader α) (closing : Char) : Reader (List α) := fun cs =>
  match skip cs with
  | [] => none
  | c :: rest =>
    if c = closing then some ([], rest) else items item closing cs.length 0 (c :: rest)

/-- A field: its key, a colon and its value; how the value is read may depend on the key. -/
def field (key : Reader String) (item : String → Reader α) : Reader (String × α) := fun cs => do
  let (name, rest) ← key cs
  match skip rest with
  | ':' :: rest => do
    let (value, rest) ← item name (skip rest)
    some ((name, value), rest)
  | _ => none

/-- The readers of what a document is made of in the end: keys, and values without parts. -/
structure Leaves where
  key : Reader String
  scalar : Reader Json

/-- A value made of such leaves whose arrays and objects are nested at most so deep. -/
def nested (leaves : Leaves) : Nat → Reader Json
  | 0 => leaves.scalar
  | depth + 1 => fun cs =>
    match cs with
    | '[' :: rest =>
      (bracketed (fun _ => nested leaves depth) ']' rest).map fun (items, rest) =>
        (.array items, rest)
    | '\x7b' :: rest =>
      (bracketed (fun _ => field leaves.key fun _ => nested leaves depth) '\x7d' rest).map
        fun (fields, rest) => (.object fields, rest)
    | _ => leaves.scalar cs

/-- A value whose arrays and objects are nested at most so deep. -/
def value : Nat → Reader Json :=
  nested ⟨stringToken, scalar⟩

/-- Arrays and objects are nested at most so deep. -/
def maxDepth : Nat := 127

/-- The document that a text is, if a reader takes all of it. -/
def complete? (reader : Reader Json) (s : String) : Option Json := do
  let (document, rest) ← reader (skip s.toList)
  if (skip rest).isEmpty then some document else none

/-- The document that a text is, its fields as written. -/
def document? : String → Option Json :=
  complete? (value maxDepth)

/-- The value that a text stands for. -/
def parse? (s : String) : Option Json :=
  (document? s).map normal

end Json

end GridQuery
