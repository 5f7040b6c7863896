import GridQuery.Json.Printer
import GridQuery.Text.Split

/-!
# Cell Texts

The text that a table shows for a cell. It never contains a line feed: a string is cut after its
first line, and anything else is made of such texts and of compact JSON, in which line feeds are
escaped.

## Main definitions

* `Json.cellText`: The text of a cell.
* `Text.clipped`: A text cut to a width.
* `Text.padded`: A text filled up to a width.
-/

namespace GridQuery

namespace Json

mutual

/-- The text of a cell: a tick for true, the items of a list that have a text, and the text or the
name that an object gives itself. -/
def cellText : Json → String
  | .null => ""
  | .bool b => if b then "✓" else ""
  | .string s => Text.firstLine s
  | .number n => n.text
  | .array items => ", ".intercalate ((itemTexts items).filter fun text => !text.isEmpty)
  | .object fields =>
    match fieldText "text" fields with
    | some text => text
    | none => match fieldText "name" fields with
      | some text => text
      | none => (Json.object fields).compact

/-- The cell texts of the items of a list. -/
def itemTexts : List Json → List String
  | [] => []
  | item :: rest => item.cellText :: itemTexts rest

/-- The cell text of the field with a key. -/
def fieldText (key : String) : List (String × Json) → Option String
  | [] => none
  | (k, value) :: rest => if k = key then some value.cellText else fieldText key rest

end

end Json

namespace Text

/-- A text of at most so many characters as it is, and a longer one cut, with three points at its
end that count towards the width. -/
def clipped (width : Nat) (s : String) : String :=
  if width < s.length then .ofList (s.toList.take (width - 3) ++ ['.', '.', '.']) else s

/-- A text with blanks after it up to a width. -/
def padded (width : Nat) (s : String) : String :=
  .ofList (s.toList ++ List.replicate (width - s.length) ' ')

end Text

end GridQuery
