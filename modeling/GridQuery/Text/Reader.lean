import GridQuery.Text.Split

/-!
# Readers

A reader takes a part from the start of a text and gives what it stands for with the rest, or
nothing. Why a text is refused is not told apart.

## Main definitions

* `Text.Reader`: Readers.
* `Text.separated`: One or more parts with a character between them.
* `Text.hexValue?`: The value of a hexadecimal digit.
-/

namespace GridQuery

namespace Text

/-- Takes a part from the start of a text, and gives what it stands for with the rest. -/
abbrev Reader (α : Type) := List Char → Option (α × List Char)

/-- One or more parts with a character between them. The bound is on the number of parts. -/
def separated {α : Type} (part : Reader α) (separator : Char) : Nat → Reader (List α)
  | 0, _ => none
  | bound + 1, cs => do
    let (first, rest) ← part cs
    match after? separator rest with
    | none => some ([first], rest)
    | some rest => do
      let (others, rest) ← separated part separator bound rest
      some (first :: others, rest)

/-- The value of a hexadecimal digit. -/
def hexValue? (c : Char) : Option Nat :=
  if c.isDigit then some (c.toNat - '0'.toNat)
  else if 'a' ≤ c ∧ c ≤ 'f' then some (c.toNat - 'a'.toNat + 10)
  else if 'A' ≤ c ∧ c ≤ 'F' then some (c.toNat - 'A'.toNat + 10)
  else none

end Text

end GridQuery
