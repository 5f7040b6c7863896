import GridQuery.Cell.Input
import GridQuery.Cell.Pattern
import GridQuery.Json.Printer

/-!
# Comparing Cells

What a comparison of a cell with an input says. A cell is a JSON value or missing; missing, null,
the empty string and the empty list are blank.

Text cells compare by their text. A long text is compared without the line feeds around it, and may
be an object that holds it. Ordered cells are numbers or timestamps, and a cell that is neither is
an error; two that are not of one sort, or of which one is not a number, are unequal and in no
order.
A list cell equals a value if one of its items does, by its text or by one of the names it has. A
checkbox cell is as good as the truth of whatever it holds.

## Main definitions

* `Cell`: A cell of a column kind.
* `Cell.isBlank`, `Cell.text?`, `Cell.ordered`, `Cell.truthy`: What a cell holds.
* `Cell.compare`: The outcome of a comparison.
-/

namespace GridQuery

/-- A cell of a column kind, missing or a JSON value. -/
structure Cell where
  kind : ColumnKind
  raw : Option Json
  deriving DecidableEq

/-- What an ordered cell holds. -/
inductive Ordered
  | blank
  | number (value : Binary64)
  | timestamp (value : Timestamp)
  deriving DecidableEq

namespace Cell

/-- Missing, null, the empty string or the empty list. -/
def isBlank (cell : Cell) : Bool :=
  match cell.raw with
  | none | some .null => true
  | some (.string s) => s.isEmpty
  | some (.array items) => items.isEmpty
  | some _ => false

/-- A text without the line feeds around it. -/
def stripLines (s : String) : String :=
  .ofList (Text.dropAround (· == '\n') s.toList)

/-- The text of a cell, if it has one. -/
def text? (cell : Cell) : Option String :=
  match cell.raw with
  | some (.string s) => some (if cell.kind = .longText then stripLines s else s)
  | some (.object fields) =>
    if cell.kind = .longText then ((fields.lookup "text").bind Json.string?).map stripLines
    else none
  | some (.number n) => some n.text
  | some (.bool b) => some (if b then "true" else "false")
  | _ => none

/-- What a cell holds of a kind whose cells are times. -/
def timestamp (kind : ColumnKind) (value : Json) : Except QueryError Ordered :=
  let s := value.string?.getD ""
  match if kind.isSystemTime then Timestamp.read? s else Timestamp.readShort? s with
  | some t => .ok (.timestamp t)
  | none => .error (.valueCoercion kind s .dateInput)

/-- What a cell holds of a kind whose cells are numbers. -/
def number (kind : ColumnKind) : Json → Except QueryError Ordered
  | .number n => .ok (.number n.toBinary64)
  | .string s =>
    match Binary64.read? s.toList with
    | some x => .ok (.number x)
    | none => .error (.valueCoercion kind s .numberInput)
  | other => .error (.valueCoercion kind other.compact .numberInput)

/-- What an ordered cell holds. -/
def ordered (cell : Cell) : Except QueryError Ordered :=
  if cell.isBlank then .ok .blank
  else match cell.raw with
    | none => .ok .blank
    | some value =>
      match cell.kind with
      | .date | .ctime | .mtime => timestamp cell.kind value
      | _ => number cell.kind value

/-- The item of a list is a string, or has a name that is one, equal to the value. -/
def itemNamed (value : String) : Json → Bool
  | .string s => s == value
  | .object fields =>
    ["display_value", "row_id", "name"].any fun key =>
      (fields.lookup key).bind Json.string? == some value
  | _ => false

/-- A list cell equals an input: an item does, or both are blank. -/
def listEqual (cell : Cell) : Input → Bool
  | .text value =>
    match cell.raw with
    | some (.array items) => items.any (itemNamed value)
    | _ => false
  | _ => cell.isBlank

/-- The truth of what a cell holds. -/
def truthy (cell : Cell) : Bool :=
  match cell.raw with
  | none | some .null => false
  | some (.bool b) => b
  | some (.number n) => !n.toBinary64.isZero
  | some (.string s) => !s.isEmpty
  | some (.array items) => !items.isEmpty
  | some (.object fields) => !fields.isEmpty

/-- How an ordered cell stands to an input, where they are of one sort. -/
def orderTo? : Ordered → Input → Option Ordering
  | .blank, .blank => some .eq
  | .number a, .number b => a.order? b
  | .timestamp a, .timestamp b => some (Ord.compare a.key b.key)
  | _, _ => none

/-- The outcome of a comparison by order. -/
def holds (comparison : Comparison) (blank : Bool) (order : Option Ordering) : Bool :=
  match comparison with
  | .equal => order == some .eq
  | .unequal => order != some .eq
  | .greater => !blank && order == some .gt
  | .greaterEqual => !blank && (order == some .gt || order == some .eq)
  | .less => !blank && order == some .lt
  | .lessEqual => !blank && (order == some .lt || order == some .eq)
  | .like => false

/-- Comparing an ordered cell; to be in order with the blank input means nothing. -/
def compareOrdered (cell : Cell) (comparison : Comparison) (input : Input) :
    Except QueryError Bool :=
  if comparison.isOrdering && input == .blank then .error (.ambiguousComparison comparison)
  else do
    let held ← cell.ordered
    .ok (holds comparison (held == .blank) (orderTo? held input))

/-- Comparing a text cell. -/
def compareText (cell : Cell) (comparison : Comparison) (input : Input) :
    Except QueryError Bool :=
  match comparison, input with
  | .like, .text pattern =>
    match Pattern.matches? (cell.text?.getD "").toList pattern.toList with
    | some matched => .ok matched
    | none => .error (.invalidLikePattern pattern)
  | .like, _ => .error (.invalidLikePattern "")
  | _, .blank => .ok (cell.isBlank == (comparison == .equal))
  | _, .text expected => .ok ((cell.text? == some expected) == (comparison == .equal))
  | _, _ => .ok (false == (comparison == .equal))

/-- The outcome of a comparison of a cell with an input. -/
def compare (cell : Cell) (comparison : Comparison) (input : Input) : Except QueryError Bool :=
  if !cell.kind.family.supports comparison then
    .error (.unsupportedComparison cell.kind comparison)
  else match cell.kind.family with
    | .text => compareText cell comparison input
    | .ordered => compareOrdered cell comparison input
    | .list => .ok (listEqual cell input == (comparison == .equal))
    | .bool => .ok ((truthy cell == (input == .bool true)) == (comparison == .equal))

end Cell

end GridQuery
