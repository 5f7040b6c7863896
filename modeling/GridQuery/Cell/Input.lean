import GridQuery.Calendar.Timestamp
import GridQuery.Error

/-!
# Inputs

The value of a comparison is written as text. What the text means depends on the kind of the column:
it is coerced once, before any cell is looked at.

A number with a point is read as a double. One without a point has to be a 64-bit integer, and
becomes the nearest double. The truth values are read in any case; no character outside ASCII has
one of their letters as its lower case, so the ASCII letters are enough.

## Main definitions

* `Input`: A coerced value.
* `Input.coerce`: The value that a text means to a column kind.
-/

namespace GridQuery

/-- A value that cells are compared with. -/
inductive Input
  | blank
  | text (value : String)
  | number (value : Binary64)
  | timestamp (value : Timestamp)
  | bool (value : Bool)
  deriving DecidableEq

namespace Input

/-- The number that a text means. -/
def readNumber? (s : String) : Option Binary64 :=
  let cs := s.toList
  if cs.contains '.' then Binary64.read? cs else (Decimal.readInt64? cs).map Binary64.ofInt

/-- The truth value that a text means. -/
def readBool? (s : String) : Option Bool :=
  if Text.sameIgnoringCase s "true" then some true
  else if Text.sameIgnoringCase s "false" then some false
  else none

/-- The value that a text means to a column kind; the empty text is blank, or false for a
checkbox. -/
def coerce (kind : ColumnKind) (s : String) : Except QueryError Input :=
  let orElse (input : Option Input) (expected : Expectation) : Except QueryError Input :=
    input.elim (.error (.valueCoercion kind s expected)) .ok
  match kind with
  | .checkbox =>
    if s.isEmpty then .ok (.bool false)
    else orElse ((readBool? s).map .bool) .checkboxInput
  | .number | .rate | .duration =>
    if s.isEmpty then .ok .blank
    else orElse ((readNumber? s).map .number) .numberInput
  | .date | .ctime | .mtime =>
    if s.isEmpty then .ok .blank
    else orElse ((Timestamp.readShort? s).map .timestamp) .dateInput
  | _ => .ok (if s.isEmpty then .blank else .text s)

end Input

end GridQuery
