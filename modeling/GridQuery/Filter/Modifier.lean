/-!
# Filter Modifiers

A modifier says which days a date filter means, seen from a fixed day: one day, such as tomorrow, or
a window of days, such as this month. Some modifiers read a number of days or a date from the term
of the filter.

## Main definitions

* `Modifier`, `Modifier.name`, `Modifier.ofName?`: The modifiers and their names.

## Theorems

* `Modifier.ofName?_name`: A modifier is found under its name.
-/

namespace GridQuery

/-- Which days a date filter means. -/
inductive Modifier
  | today | tomorrow | yesterday | oneWeekAgo | oneWeekFromNow | oneMonthAgo | oneMonthFromNow
  | numberOfDaysAgo | numberOfDaysFromNow | exactDate | thePastWeek | thePastMonth | thePastYear
  | theNextWeek | theNextMonth | theNextYear | theNextNumbersOfDays | thePastNumbersOfDays
  | thisWeek | thisMonth | thisYear
  deriving DecidableEq, Repr

namespace Modifier

/-- The name of a modifier in a specification. -/
def name : Modifier → String
  | .today => "today"
  | .tomorrow => "tomorrow"
  | .yesterday => "yesterday"
  | .oneWeekAgo => "one_week_ago"
  | .oneWeekFromNow => "one_week_from_now"
  | .oneMonthAgo => "one_month_ago"
  | .oneMonthFromNow => "one_month_from_now"
  | .numberOfDaysAgo => "number_of_days_ago"
  | .numberOfDaysFromNow => "number_of_days_from_now"
  | .exactDate => "exact_date"
  | .thePastWeek => "the_past_week"
  | .thePastMonth => "the_past_month"
  | .thePastYear => "the_past_year"
  | .theNextWeek => "the_next_week"
  | .theNextMonth => "the_next_month"
  | .theNextYear => "the_next_year"
  | .theNextNumbersOfDays => "the_next_numbers_of_days"
  | .thePastNumbersOfDays => "the_past_numbers_of_days"
  | .thisWeek => "this_week"
  | .thisMonth => "this_month"
  | .thisYear => "this_year"

def all : List Modifier :=
  [.today, .tomorrow, .yesterday, .oneWeekAgo, .oneWeekFromNow, .oneMonthAgo, .oneMonthFromNow,
    .numberOfDaysAgo, .numberOfDaysFromNow, .exactDate, .thePastWeek, .thePastMonth, .thePastYear,
    .theNextWeek, .theNextMonth, .theNextYear, .theNextNumbersOfDays, .thePastNumbersOfDays,
    .thisWeek, .thisMonth, .thisYear]

/-- The modifier with a name. -/
def ofName? (name : String) : Option Modifier :=
  all.find? fun modifier => modifier.name == name

theorem ofName?_name (modifier : Modifier) : ofName? modifier.name = some modifier := by
  cases modifier <;> decide

end Modifier

end GridQuery
