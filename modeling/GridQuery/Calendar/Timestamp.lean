import GridQuery.Calendar.DateText
import GridQuery.Text.Split

/-!
# Timestamps

A day and a time of day, without a zone; local time is universal time. A leap second is the second
59 with a fraction of one or more, so that it stands after every other `:59` and before the next
full minute.

Two forms are read. The short form is a date, alone or followed by one blank and up to three fields
of a time. The internet form (RFC 3339) is fixed in width but for its fraction, and ends with an
offset from universal time, which is taken off.

## Main definitions

* `Timestamp`: A day, a second of the day and a fraction.
* `Timestamp.key`: The place of a timestamp on the line of time.
* `Timestamp.readShort?`, `Timestamp.readInternet?`, `Timestamp.read?`: The forms.
* `Timestamp.text`: The short form with all fields.
-/

namespace GridQuery

/-- A day, a second of that day and a fraction in billionths. -/
structure Timestamp where
  date : Date
  second : Nat
  nano : Nat
  deriving DecidableEq

namespace Timestamp

/-- The seconds of a day. -/
def daySeconds : Nat := 86400

/-- The billionths of a second. -/
def secondNanos : Nat := 1000000000

/-- The place of a timestamp on the line of time; a second has room for a leap second behind it. -/
def key (t : Timestamp) : Int :=
  (t.date.dayNumber * daySeconds + t.second) * (2 * secondNanos) + t.nano

/-- The second of the day with these parts, if there is one. -/
def secondOfDay? (hour minute second : Nat) : Option Nat :=
  if hour < 24 ∧ minute < 60 ∧ second < 60 then some (hour * 3600 + minute * 60 + second) else none

/-- The second of the day that up to three fields give, left out ones zero. -/
def ofFields? : List Nat → Option Nat
  | [h] => secondOfDay? h 0 0
  | [h, m] => secondOfDay? h m 0
  | [h, m, s] => secondOfDay? h m s
  | _ => none

/-- The short form: a date, or a date, a blank and the fields of a time between colons. -/
def readShort? (s : String) : Option Timestamp :=
  match Text.splitOn ' ' s.toList with
  | [day] => (Date.read? day).map fun d => ⟨d, 0, 0⟩
  | [day, time] => do
    let date ← Date.read? day
    let fields ← (Text.splitOn ':' time).mapM (Decimal.readBelow? Word.size32)
    some ⟨date, ← ofFields? fields, 0⟩
  | _ => none

/-- The timestamp so many seconds earlier. -/
def minusSeconds? (t : Timestamp) (seconds : Int) : Option Timestamp :=
  let total : Int := t.second - seconds
  (t.date.addDays? (total / daySeconds)).map fun d =>
    { t with date := d, second := (total % daySeconds).toNat }

/-- The number of two digits. -/
def twoDigits? (a b : Char) : Option Nat :=
  Decimal.readNat? [a, b]

/-- The offset from universal time that ends the internet form, in seconds. -/
def readOffset? : List Char → Option Int
  | [zone] => if zone = 'Z' ∨ zone = 'z' then some 0 else none
  | [sign, h, i, colon, m, n] => do
    let hours ← twoDigits? h i
    let minutes ← twoDigits? m n
    if colon ≠ ':' ∨ 23 < hours ∨ 59 < minutes then none
    else
      let seconds : Int := hours * 3600 + minutes * 60
      if sign = '+' then some seconds
      else if sign = '-' ∨ sign = '\u2212' then some (-seconds)
      else none
  | _ => none

/-- The fraction of a second after the seconds, in billionths, and what follows it; digits past the
ninth are dropped. -/
def takeFraction? (cs : List Char) : Option (Nat × List Char) :=
  match Text.after? '.' cs with
  | none => some (0, cs)
  | some rest =>
    let digits := rest.takeWhile Char.isDigit
    if digits.isEmpty then none
    else
      let billionths := digits.take 9 ++ List.replicate (9 - digits.length) '0'
      some (Decimal.ofDigits billionths, rest.dropWhile Char.isDigit)

/-- The internet form (RFC 3339), its offset taken off. -/
def readInternet? (s : String) : Option Timestamp :=
  match s.toList with
  | y :: e :: a :: r :: hyphen :: m :: n :: hyphen' :: d :: f :: separator ::
      h :: i :: colon :: j :: k :: colon' :: p :: q :: rest =>
    if hyphen ≠ '-' ∨ hyphen' ≠ '-' ∨ colon ≠ ':' ∨ colon' ≠ ':' then none
    else if separator ≠ 'T' ∧ separator ≠ 't' ∧ separator ≠ ' ' then none
    else do
      let year ← Decimal.readNat? [y, e, a, r]
      let date ← Date.ofCivil? year (← twoDigits? m n) (← twoDigits? d f)
      let seconds ← twoDigits? p q
      let leap := seconds = 60
      let second ← secondOfDay? (← twoDigits? h i) (← twoDigits? j k) (if leap then 59 else seconds)
      let (fraction, rest) ← takeFraction? rest
      let offset ← readOffset? rest
      minusSeconds? ⟨date, second, if leap then fraction + secondNanos else fraction⟩ offset
  | _ => none

/-- The internet form, or else the short one. -/
def read? (s : String) : Option Timestamp :=
  (readInternet? s).or (readShort? s)

/-- The date, a blank, and the hour, minute and second between colons. -/
def text (t : Timestamp) : List Char :=
  t.date.text ++ ' ' :: Decimal.padded 2 (t.second / 3600) ++ ':' ::
    Decimal.padded 2 (t.second / 60 % 60) ++ ':' :: Decimal.padded 2 (t.second % 60)

end Timestamp

end GridQuery
