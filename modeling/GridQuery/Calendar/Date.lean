/-!
# Calendar Dates

Dates of the proleptic Gregorian calendar, from the first day of the year -262143 to the last of the
year 262142. A date carries the proof that it exists.

Every date has a day number, counted so that the first day of the year 1 has the number 1, and
moving by days is adding to the day number. The year of a day number is estimated from the mean
length of a year, which is off by at most one, and then corrected; the month is found by walking
through the year.

## Main definitions

* `Date`: A year, a month and a day that exist.
* `Date.dayNumber`, `Date.ofDayNumber?`: Dates as numbers and back.
* `Date.addDays?`, `Date.addMonths?`: Moving by days, and by months with the day cut to fit.
* `Date.weekday`: The day of the week, from Monday 1 to Sunday 7.

## Theorems

* `Date.monthLength_pos`, `Date.monthLength_le`: A month has between 1 and 31 days.
* `Date.ofCivil?_self`: A date is made again of its parts.
-/

namespace GridQuery

namespace Date

/-- The first and the last year of the calendar. -/
def minYear : Int := -262143

def maxYear : Int := 262142

/-- Every fourth year is a leap year, except the centuries that 400 does not divide. -/
def isLeap (year : Int) : Bool :=
  year % 4 == 0 && (year % 100 != 0 || year % 400 == 0)

/-- The number of days of a month. -/
def monthLength (year : Int) (month : Nat) : Nat :=
  match month with
  | 2 => if isLeap year then 29 else 28
  | 4 | 6 | 9 | 11 => 30
  | _ => 31

/-- The parts name a date of the calendar. -/
def Exists (year : Int) (month day : Nat) : Prop :=
  (minYear ≤ year ∧ year ≤ maxYear) ∧ (1 ≤ month ∧ month ≤ 12) ∧
    (1 ≤ day ∧ day ≤ monthLength year month)

instance (year : Int) (month day : Nat) : Decidable (Exists year month day) :=
  inferInstanceAs (Decidable (_ ∧ _))

end Date

/-- A date of the calendar. -/
structure Date where
  year : Int
  month : Nat
  day : Nat
  existing : Date.Exists year month day
  deriving DecidableEq

namespace Date

/-- The date with these parts, if there is one. -/
def ofCivil? (year : Int) (month day : Nat) : Option Date :=
  if h : Exists year month day then some ⟨year, month, day, h⟩ else none

/-- The first and the last day of the calendar. -/
def first : Date := ⟨minYear, 1, 1, by decide⟩

def last : Date := ⟨maxYear, 12, 31, by decide⟩

/-- The day number of the last day before a year. -/
def daysBeforeYear (year : Int) : Int :=
  let past := year - 1
  365 * past + past / 4 - past / 100 + past / 400

/-- The number of days of the first months of a year. -/
def daysOfMonths (year : Int) : Nat → Nat
  | 0 => 0
  | months + 1 => daysOfMonths year months + monthLength year (months + 1)

/-- The number of days of a year before a month. -/
def daysBeforeMonth (year : Int) (month : Nat) : Nat :=
  daysOfMonths year (month - 1)

/-- The place of a date among all days; the first day of the year 1 has the number 1. -/
def dayNumber (d : Date) : Int :=
  daysBeforeYear d.year + daysBeforeMonth d.year d.month + d.day

/-- The year that a day number falls in. -/
def yearOf (number : Int) : Int :=
  let estimate := (number - 1) * 400 / 146097 + 1
  if number ≤ daysBeforeYear estimate then estimate - 1
  else if daysBeforeYear (estimate + 1) < number then estimate + 1
  else estimate

/-- The month and the day of a day of the year, walking on from a month. -/
def monthAndDay (year : Int) : Nat → Nat → Nat → Nat × Nat
  | 0, month, day => (month, day)
  | fuel + 1, month, day =>
    let length := monthLength year month
    if day ≤ length then (month, day) else monthAndDay year fuel (month + 1) (day - length)

/-- The date with a day number, if the calendar has it. -/
def ofDayNumber? (number : Int) : Option Date :=
  let year := yearOf number
  let (month, day) := monthAndDay year 11 1 (number - daysBeforeYear year).toNat
  ofCivil? year month day

/-- The date so many days later, or earlier for a negative count. -/
def addDays? (d : Date) (days : Int) : Option Date :=
  ofDayNumber? (d.dayNumber + days)

/-- The date so many months later, or earlier for a negative count; a day past the end of the month
becomes its last day. -/
def addMonths? (d : Date) (months : Int) : Option Date :=
  let total := d.year * 12 + (d.month - 1 : Nat) + months
  let year := total / 12
  let month := (total % 12).toNat + 1
  ofCivil? year month (min d.day (monthLength year month))

/-- The day of the week, from Monday 1 to Sunday 7. -/
def weekday (d : Date) : Int :=
  (d.dayNumber - 1) % 7 + 1

instance : LE Date := ⟨fun a b => a.dayNumber ≤ b.dayNumber⟩

instance : LT Date := ⟨fun a b => a.dayNumber < b.dayNumber⟩

theorem monthLength_pos (year : Int) (month : Nat) : 1 ≤ monthLength year month := by
  unfold monthLength
  split <;> (try split) <;> decide

theorem monthLength_le (year : Int) (month : Nat) : monthLength year month ≤ 31 := by
  unfold monthLength
  split <;> (try split) <;> decide

theorem ofCivil?_self (d : Date) : ofCivil? d.year d.month d.day = some d := by
  simp [ofCivil?, d.existing]

end Date

end GridQuery
