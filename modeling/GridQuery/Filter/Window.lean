import GridQuery.Calendar.DateText
import GridQuery.Error
import GridQuery.Filter.Modifier

/-!
# Windows of Days

What a modifier means on a given day: a single day, or a window with a first and a last day, both
of which belong to it. A week is counted from a Sunday: Monday is its second day, and a Sunday is
the eighth day of the week before. Nothing is resolved beyond the calendar: where one of the days
that are needed does not exist, the error names the move that failed.

The two ends of a window are worked out in order, so that the error is that of the first end. The
last day of a month is the day before the first of the next month, and so the last month of the
calendar, whose next month does not exist, has no window.

## Main definitions

* `Window`: A day, or a first and a last day.
* `Date.shift`, `Date.shiftMonths`: Moving a day, with the errors of a move.
* `Modifier.window`: What a modifier means on a day.

## Theorems

* `Date.shift_eq_ok`: A move arrives where its day number says.
-/

namespace GridQuery

/-- What a modifier means: a day, or the days from a first to a last. -/
inductive Window
  | day (date : Date)
  | range (first last : Date)
  deriving DecidableEq

namespace Date

/-- The text of a move by days; the count is cut to what a signed 64-bit word holds. -/
def shiftText (d : Date) (count : Int) : String :=
  let count := min count (Word.half64 - 1)
  let signed := if count < 0 then Decimal.signedDigits count else '+' :: Decimal.signedDigits count
  .ofList (d.text ++ ' ' :: signed ++ [' ', 'd', 'a', 'y', 's'])

/-- The day so many days later, or earlier for a negative count. -/
def shift (d : Date) (count : Int) : Except QueryError Date :=
  match d.addDays? count with
  | some moved => .ok moved
  | none => .error (.invalidDateTerm (d.shiftText count) .dateOutOfRange)

/-- The day so many months later, or earlier for a negative count. -/
def shiftMonths (d : Date) (count : Int) : Except QueryError Date :=
  match d.addMonths? count with
  | some moved => .ok moved
  | none => .error (.invalidDateTerm (.ofList d.text) .dateOutOfRange)

/-- The first day of the month of a day. -/
def firstOfMonth (d : Date) : Date :=
  ⟨d.year, d.month, 1, d.existing.1, d.existing.2.1, Nat.le_refl 1, monthLength_pos d.year d.month⟩

/-- A date of a year, or the error of a year that the calendar does not have. -/
def ofYear (year : Int) (month day : Nat) : Except QueryError Date :=
  match ofCivil? year month day with
  | some d => .ok d
  | none => .error (.invalidDateTerm (.ofList (Decimal.signedDigits year)) .yearOutOfRange)

/-- The date that a term names. -/
def ofTerm (term : String) : Except QueryError Date :=
  match read? (Text.trim term).toList with
  | some d => .ok d
  | none => .error (.invalidDateTerm term .noDate)

theorem shift_eq_ok {d moved : Date} {count : Int} :
    d.shift count = .ok moved ↔ d.addDays? count = some moved := by
  unfold shift
  split <;> simp_all

end Date

namespace Window

/-- The days between two moves from a day. -/
def between (d : Date) (first last : Int) : Except QueryError Window := do
  let first ← d.shift first
  let last ← d.shift last
  .ok (.range first last)

/-- The days of the month of a day. -/
def ofMonth (d : Date) : Except QueryError Window := do
  let next ← d.firstOfMonth.shiftMonths 1
  let last ← next.shift (-1)
  .ok (.range d.firstOfMonth last)

/-- The days of a year. -/
def ofYear (year : Int) : Except QueryError Window := do
  let first ← Date.ofYear year 1 1
  let last ← Date.ofYear year 12 31
  .ok (.range first last)

end Window

namespace Modifier

/-- The modifier that a text names. -/
def read (text : String) : Except QueryError Modifier :=
  match ofName? text with
  | some modifier => .ok modifier
  | none => .error (.invalidDateTerm text .unknownModifier)

/-- The number of days that a term names. -/
def dayCount (term : String) : Except QueryError Int :=
  match Decimal.readInt64? (Text.trim term).toList with
  | some count => .ok count
  | none => .error (.invalidDateTerm term .noDayCount)

/-- What a modifier means on a day; the term is read only where the modifier needs one. -/
def window (modifier : Modifier) (today : Date) (term : String) : Except QueryError Window :=
  let place := today.weekday + 1
  match modifier with
  | .today => .ok (.day today)
  | .tomorrow => .day <$> today.shift 1
  | .yesterday => .day <$> today.shift (-1)
  | .oneWeekAgo => .day <$> today.shift (-7)
  | .oneWeekFromNow => .day <$> today.shift 7
  | .oneMonthAgo => .day <$> today.shiftMonths (-1)
  | .oneMonthFromNow => .day <$> today.shiftMonths 1
  | .numberOfDaysAgo => do .day <$> today.shift (-(← dayCount term))
  | .numberOfDaysFromNow => do .day <$> today.shift (← dayCount term)
  | .exactDate => .day <$> Date.ofTerm term
  | .thePastWeek => Window.between today (-(place + 6)) (-place)
  | .thisWeek => Window.between today (1 - place) (7 - place)
  -- The next week begins with the last day of this one.
  | .theNextWeek => Window.between today (7 - place) (14 - place)
  | .thePastMonth => do Window.ofMonth (← today.shiftMonths (-1))
  | .thisMonth => Window.ofMonth today
  | .theNextMonth => do Window.ofMonth (← today.shiftMonths 1)
  | .thePastYear => Window.ofYear (today.year - 1)
  | .thisYear => Window.ofYear today.year
  | .theNextYear => Window.ofYear (today.year + 1)
  | .theNextNumbersOfDays => .range today <$> (dayCount term >>= today.shift)
  | .thePastNumbersOfDays => do
    let first ← today.shift (-(← dayCount term))
    .ok (.range first today)

end Modifier

end GridQuery
