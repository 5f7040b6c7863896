import GridQuery.Json.Parser

/-!
# Outlines of JSON Documents

A document may say more than is asked of it. An outline names the parts that are wanted, and a
document that is read by an outline has no other fields. What is passed over has to be well formed
and no more: it may be nested to any depth, and hold numbers that no double reaches and halves of
characters.

A record may be written as the array of its fields, and then the outline of an item is that of the
field in its place. A value of another form than its outline is read as a whole, since it is for its
shape to refuse it.

## Main definitions

* `Json.Outline`: The parts that are wanted.
* `Json.passOver`: The text after a value that is not wanted.
* `Json.outlined?`: The wanted parts of the document that a text is.
-/

namespace GridQuery

namespace Json

open Text (Reader)

/-- The parts of a value that are wanted: all, those of the items of a list, or some fields. -/
inductive Outline
  | whole
  | list (item : Outline)
  | record (fields : List (String × Outline))

/-- The text after the closing quote of a string. -/
def passString : List Char → Option (List Char)
  | [] => none
  | '"' :: rest => some rest
  | '\\' :: 'u' :: a :: b :: c :: d :: rest =>
    if (hexNumber? a b c d).isSome then passString rest else none
  | '\\' :: c :: rest => if (shortEscape? c).isSome then passString rest else none
  | c :: rest => if c.toNat < 32 then none else passString rest

/-- Keys and scalars of which only the form matters. -/
def formal : Leaves where
  key
    | '"' :: rest => (passString rest).map fun rest => ("", rest)
    | _ => none
  scalar
    | '"' :: rest => (passString rest).map fun rest => (.null, rest)
    | cs => (word cs).or ((Literal.take? cs).map fun (_, rest) => (.null, rest))

/-- The text after a value; nothing is nested deeper than the text is long. -/
def passOver (cs : List Char) : Option (List Char) :=
  (nested formal cs.length cs).map Prod.snd

namespace Outline

/-- The outline of the item at a place of an array. -/
def item : Outline → Nat → Outline
  | .whole, _ => .whole
  | .list item, _ => item
  | .record fields, place => (fields[place]?.map Prod.snd).getD .whole

/-- The wanted parts of a value whose arrays and objects are nested at most so deep. -/
def value : Nat → Outline → Reader Json
  | 0, _ => scalar
  | depth + 1, outline => fun cs =>
    match outline, cs with
    | .whole, cs => Json.value (depth + 1) cs
    | outline, '[' :: rest =>
      (bracketed (fun place => value depth (outline.item place)) ']' rest).map
        fun (items, rest) => (.array items, rest)
    | .record wanted, '\x7b' :: rest =>
      let part (key : String) : Reader (Option Json) := fun cs =>
        match wanted.lookup key with
        | some outline => (value depth outline cs).map fun (part, rest) => (some part, rest)
        | none => (passOver cs).map fun rest => (none, rest)
      (bracketed (fun _ => field stringToken part) '\x7d' rest).map fun (fields, rest) =>
        (.object (fields.filterMap fun (key, part) => part.map fun part => (key, part)), rest)
    | _, cs => Json.value (depth + 1) cs

end Outline

/-- The wanted parts of the document that a text is, its fields as written. -/
def outlined? (outline : Outline) : String → Option Json :=
  complete? (outline.value maxDepth)

end Json

end GridQuery
