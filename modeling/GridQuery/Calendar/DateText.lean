import GridQuery.Calendar.Date
import GridQuery.Number.Decimal
import GridQuery.Text.Blank

/-!
# Date Texts

A date is written as year, month and day between hyphens. The month and the day have two digits and
the year at least four; a year that four digits do not hold has its sign written.

Reading is more lenient than writing. A year without a sign has at most four digits and a signed one
any number; a month and a day have one or two; and blanks are skipped before each number. In a loose
text blanks may also stand before a hyphen and after the day.

## Main definitions

* `Date.text`: The text of a date.
* `Date.read?`: The date that a text names.
* `Date.readLoose?`: The same, with blanks anywhere between the parts.
-/

namespace GridQuery

namespace Decimal

/-- The digits of a number with zeros before them up to a width. -/
def padded (width n : Nat) : List Char :=
  List.replicate (width - (digits n).length) '0' ++ digits n

/-- The number of the digits at the start of a text, at most so many of them and at least one, and
what follows them. -/
def takeNumber? (most : Nat) (cs : List Char) : Option (Nat × List Char) :=
  let taken := (cs.take most).takeWhile Char.isDigit
  if taken.isEmpty then none else some (ofDigits taken, cs.drop taken.length)

end Decimal

namespace Date

/-- The text of a year. -/
def yearText (year : Int) : List Char :=
  let plain := Decimal.padded 4 year.natAbs
  if year < 0 then '-' :: plain else if 9999 < year then '+' :: plain else plain

/-- The text of a date: year, month and day between hyphens. -/
def text (d : Date) : List Char :=
  yearText d.year ++ '-' :: Decimal.padded 2 d.month ++ '-' :: Decimal.padded 2 d.day

/-- A year at the start of a text: up to four digits, or any number of them after a sign. -/
def takeYear? (cs : List Char) : Option (Int × List Char) :=
  let cs := Text.trimStart cs
  let (negative, unsigned) := Decimal.takeSign cs
  let most := if unsigned.length = cs.length then 4 else unsigned.length
  (Decimal.takeNumber? most unsigned).map fun (n, rest) =>
    (if negative then -(n : Int) else n, rest)

/-- A hyphen and then a month or a day at the start of a text; a gap may stand before the hyphen. -/
def takePart? (gap : Char → Bool) (cs : List Char) : Option (Nat × List Char) :=
  (Text.after? '-' (cs.dropWhile gap)).bind fun rest => Decimal.takeNumber? 2 (Text.trimStart rest)

/-- The date that a text names, where a gap may stand before a hyphen and after the day. -/
def readWith? (gap : Char → Bool) (cs : List Char) : Option Date := do
  let (year, rest) ← takeYear? cs
  let (month, rest) ← takePart? gap rest
  let (day, rest) ← takePart? gap rest
  if (rest.dropWhile gap).isEmpty then ofCivil? year month day else none

/-- The date that a text names. -/
def read? (cs : List Char) : Option Date :=
  readWith? (fun _ => false) cs

/-- The date that a text names, blanks between its parts and after them allowed. -/
def readLoose? (cs : List Char) : Option Date :=
  readWith? Text.isBlank cs

end Date

end GridQuery
