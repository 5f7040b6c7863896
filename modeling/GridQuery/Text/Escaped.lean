import GridQuery.Text.Printable

/-!
# Escaped Text

Text between double quotes in which every character can be told: the quote, the backslash and the
four control characters with a name are escaped by a letter, other characters that are not printable
by their code point in braces.

## Main definitions

* `Text.escaped`: A text in this form.
-/

namespace GridQuery

namespace Text

/-- A character as it stands between the quotes. -/
def escapedChar (c : Char) : List Char :=
  if c = '"' ∨ c = '\\' then ['\\', c]
  else if c = '\n' then ['\\', 'n']
  else if c = '\r' then ['\\', 'r']
  else if c = '\t' then ['\\', 't']
  else if c.toNat = 0 then ['\\', '0']
  else if isPrintable c then [c]
  else ['\\', 'u', '\x7b'] ++ Nat.toDigits 16 c.toNat ++ ['\x7d']

/-- A text between double quotes, what cannot be seen escaped. -/
def escaped (s : String) : String :=
  .ofList ('"' :: s.toList.flatMap escapedChar ++ ['"'])

end Text

end GridQuery
