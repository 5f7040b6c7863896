import GridQuery.Calendar.Date
import Mathlib.Order.Monotone.Basic

/-!
# Day Numbers

Dates and their day numbers, one for one.

A day number is put together like a number of mixed radix, except that the places are not of one
size: years have two lengths and months have four. What takes the place of division is that the
numbers at which the years begin increase strictly, and so do those at which the months of a year
begin. A number lies between two such beginnings that follow each other, and between no others.

The year is estimated and corrected. The estimate divides by the mean length of a year, and a
rounded mean is off by less than a year in either direction, so that one correction is enough. The
month is found by a walk that takes off the lengths of the months it passes, and what it keeps is
the sum.

## Main definitions

* `Date.yearLength`: The number of days of a year.

## Theorems

* `Date.daysBeforeYear_succ`, `Date.daysOfMonths_twelve`: A year is as long as its months.
* `Date.daysBeforeYear_lt_iff`, `Date.daysBeforeMonth_lt_iff`: Later years and months begin later.
* `Date.yearOf_eq_iff`: The year of a day number is the one that it lies in.
* `Date.monthAndDay_spec`: The walk through a year ends on a day of it with the same place.
* `Date.ofDayNumber?_eq_some_iff`: The date with a day number.
* `Date.exists_dayNumber_iff`: The day numbers that the calendar has.
* `Date.addDays?_eq_some_iff`: To move by days is to add to the day number.
* `Date.dayNumber_injective`: Different dates have different numbers.
-/

namespace GridQuery

namespace Date

/-- The number of days of a year. -/
def yearLength (year : Int) : Nat :=
  if isLeap year then 366 else 365

/-! ## Years -/

theorem isLeap_eq_true_iff {year : Int} :
    isLeap year = true ↔ year % 4 = 0 ∧ (year % 100 ≠ 0 ∨ year % 400 = 0) := by
  simp only [isLeap, Bool.and_eq_true, Bool.or_eq_true, beq_iff_eq, bne_iff_ne]

theorem daysBeforeYear_succ (year : Int) :
    daysBeforeYear (year + 1) = daysBeforeYear year + yearLength year := by
  -- The quotients by 4, 100 and 400 step up after the years that these divide.
  have hlength : yearLength year = if isLeap year = true then 366 else 365 := rfl
  simp only [isLeap_eq_true_iff] at hlength
  dsimp only [daysBeforeYear]
  split at hlength <;> omega

theorem yearLength_pos (year : Int) : 0 < yearLength year := by
  unfold yearLength
  split <;> decide

/-- The numbers at which the years begin increase strictly. -/
theorem daysBeforeYear_lt_iff {year other : Int} :
    daysBeforeYear year < daysBeforeYear other ↔ year < other := by
  refine (strictMono_int_of_lt_succ fun year => ?_).lt_iff_lt
  have hpos := yearLength_pos year
  rw [daysBeforeYear_succ]
  omega

/-- A day number lies in no other year. -/
theorem eq_of_mem_year {number year other : Int}
    (h : daysBeforeYear year < number ∧ number ≤ daysBeforeYear (year + 1))
    (hother : daysBeforeYear other < number ∧ number ≤ daysBeforeYear (other + 1)) :
    year = other := by
  have hle := daysBeforeYear_lt_iff.mp (Int.lt_of_lt_of_le h.1 hother.2)
  have hge := daysBeforeYear_lt_iff.mp (Int.lt_of_lt_of_le hother.1 h.2)
  omega

theorem mem_yearOf (number : Int) :
    daysBeforeYear (yearOf number) < number ∧ number ≤ daysBeforeYear (yearOf number + 1) := by
  -- The number is in the estimated year or in one of the two beside it.
  have hbounds : ∀ estimate, estimate = (number - 1) * 400 / 146097 + 1 →
      daysBeforeYear (estimate - 1) < number ∧ number ≤ daysBeforeYear (estimate + 2) := by
    intro estimate hestimate
    dsimp only [daysBeforeYear]
    omega
  rcases hbounds _ rfl with ⟨hlower, hupper⟩
  unfold yearOf
  dsimp only
  split
  · next hbefore => exact ⟨hlower, by rwa [Int.sub_add_cancel]⟩
  · next hbefore =>
      split
      · next hafter => exact ⟨hafter, by rwa [Int.add_assoc]⟩
      · next hafter => exact ⟨Int.not_le.mp hbefore, Int.not_lt.mp hafter⟩

theorem yearOf_eq_iff {number year : Int} :
    yearOf number = year ↔ daysBeforeYear year < number ∧ number ≤ daysBeforeYear (year + 1) := by
  constructor
  · rintro rfl
    exact mem_yearOf number
  · exact eq_of_mem_year (mem_yearOf number)

/-! ## Months -/

theorem daysOfMonths_twelve (year : Int) : daysOfMonths year 12 = yearLength year := by
  simp only [daysOfMonths, monthLength, yearLength]
  split <;> rfl

theorem daysOfMonths_strictMono (year : Int) : StrictMono (daysOfMonths year) := by
  refine strictMono_nat_of_lt_succ fun months => ?_
  have hpos := monthLength_pos year (months + 1)
  rw [daysOfMonths]
  omega

theorem daysBeforeMonth_succ (year : Int) {month : Nat} (h : 1 ≤ month) :
    daysBeforeMonth year (month + 1) = daysBeforeMonth year month + monthLength year month := by
  rcases Nat.exists_eq_add_of_le' h with ⟨months, rfl⟩
  rfl

theorem daysBeforeMonth_lt_iff (year : Int) {month other : Nat} (h : 1 ≤ month)
    (hother : 1 ≤ other) : daysBeforeMonth year month < daysBeforeMonth year other ↔
      month < other := by
  rw [daysBeforeMonth, daysBeforeMonth, (daysOfMonths_strictMono year).lt_iff_lt]
  omega

/-- The walk through a year goes on for as long as there are months, keeps the place in the year,
and ends in a month that has the day. -/
theorem monthAndDay_spec {year : Int} {fuel month day : Nat} (hmonth : 1 ≤ month)
    (hfuel : month + fuel = 12) (hday : 1 ≤ day)
    (hplace : daysBeforeMonth year month + day ≤ yearLength year) :
    ∃ m d, monthAndDay year fuel month day = (m, d) ∧ (1 ≤ m ∧ m ≤ 12) ∧
      (1 ≤ d ∧ d ≤ monthLength year m) ∧
      daysBeforeMonth year m + d = daysBeforeMonth year month + day := by
  induction fuel generalizing month day with
  | zero =>
      -- In December no month is left to walk to, and the year is long enough.
      obtain rfl : month = 12 := hfuel
      have hlength := daysOfMonths_twelve year
      have hsplit : daysOfMonths year 12 = daysBeforeMonth year 12 + monthLength year 12 := rfl
      exact ⟨12, day, rfl, by omega, by omega, rfl⟩
  | succ fuel ih =>
      rw [monthAndDay]
      by_cases hfits : day ≤ monthLength year month
      · rw [if_pos hfits]
        exact ⟨month, day, rfl, by omega, ⟨hday, hfits⟩, rfl⟩
      · -- The length that is taken off the day goes to the place of the next month.
        rw [if_neg hfits]
        have hsucc := daysBeforeMonth_succ year hmonth
        have hrest : daysBeforeMonth year (month + 1) + (day - monthLength year month) ≤
            yearLength year := by omega
        rcases ih (by omega) (by omega) (by omega) hrest with ⟨m, d, heq, hm, hd, hsum⟩
        exact ⟨m, d, heq, hm, hd, by omega⟩

/-- A place in the year is in no other month. -/
theorem eq_of_mem_month {year : Int} {month day month' day' : Nat}
    (hmonth : 1 ≤ month) (hday : 1 ≤ day ∧ day ≤ monthLength year month)
    (hmonth' : 1 ≤ month') (hday' : 1 ≤ day' ∧ day' ≤ monthLength year month')
    (h : daysBeforeMonth year month + day = daysBeforeMonth year month' + day') :
    month = month' ∧ day = day' := by
  have hsucc := daysBeforeMonth_succ year hmonth
  have hsucc' := daysBeforeMonth_succ year hmonth'
  have hle := (daysBeforeMonth_lt_iff year hmonth (Nat.le_add_left 1 month')).mp (by omega)
  have hge := (daysBeforeMonth_lt_iff year hmonth' (Nat.le_add_left 1 month)).mp (by omega)
  obtain rfl : month = month' := by omega
  exact ⟨rfl, by omega⟩

/-! ## Dates -/

theorem ofCivil?_eq_some_iff {year : Int} {month day : Nat} {d : Date} :
    ofCivil? year month day = some d ↔ d.year = year ∧ d.month = month ∧ d.day = day := by
  constructor
  · intro h
    unfold ofCivil? at h
    split at h
    · cases h
      exact ⟨rfl, rfl, rfl⟩
    · exact absurd h (by simp only [reduceCtorEq, not_false_eq_true])
  · rintro ⟨rfl, rfl, rfl⟩
    exact ofCivil?_self d

/-- The place of a date in its year. -/
theorem mem_yearLength (d : Date) :
    1 ≤ daysBeforeMonth d.year d.month + d.day ∧
      daysBeforeMonth d.year d.month + d.day ≤ yearLength d.year := by
  rcases d.existing with ⟨-, ⟨hmonth, hmonth'⟩, hday, hday'⟩
  have hsucc := daysBeforeMonth_succ d.year hmonth
  have hle : daysBeforeMonth d.year (d.month + 1) ≤ daysOfMonths d.year 12 :=
    (daysOfMonths_strictMono d.year).monotone hmonth'
  rw [daysOfMonths_twelve] at hle
  omega

theorem yearOf_dayNumber (d : Date) : yearOf d.dayNumber = d.year := by
  have hplace := mem_yearLength d
  rw [yearOf_eq_iff, daysBeforeYear_succ, dayNumber]
  omega

/-- The month and the day of a day number exist, whether its year does or not. -/
theorem ofDayNumber?_eq_ofCivil? (number : Int) :
    ∃ month day, ofDayNumber? number = ofCivil? (yearOf number) month day ∧
      (1 ≤ month ∧ month ≤ 12) ∧ (1 ≤ day ∧ day ≤ monthLength (yearOf number) month) ∧
      daysBeforeYear (yearOf number) + daysBeforeMonth (yearOf number) month + day = number := by
  have hyear := mem_yearOf number
  rw [daysBeforeYear_succ] at hyear
  have hzero : daysBeforeMonth (yearOf number) 1 = 0 := rfl
  -- What is left of the number in its year is walked through month by month.
  have hwithin : daysBeforeMonth (yearOf number) 1 +
      (number - daysBeforeYear (yearOf number)).toNat ≤ yearLength (yearOf number) := by omega
  have hfuel : 1 + 11 = 12 := rfl
  rcases monthAndDay_spec (Nat.le_refl 1) hfuel (by omega) hwithin with
    ⟨month, day, hwalk, hmonth, hday, hplace⟩
  refine ⟨month, day, ?_, hmonth, hday, by omega⟩
  unfold ofDayNumber?
  dsimp only
  rw [hwalk]

theorem ofDayNumber?_eq_some_iff {number : Int} {d : Date} :
    ofDayNumber? number = some d ↔ d.dayNumber = number := by
  rcases ofDayNumber?_eq_ofCivil? number with ⟨m, day, hcivil, hm, hday, hplace⟩
  rw [hcivil, ofCivil?_eq_some_iff]
  constructor
  · rintro ⟨hdyear, rfl, rfl⟩
    rw [dayNumber, hdyear, hplace]
  · -- The date has the year of its number, and then the only month and day with its place in it.
    intro hnumber
    have hdyear : d.year = yearOf number := by rw [← hnumber, yearOf_dayNumber]
    rcases d.existing with ⟨-, hdmonth, hdday⟩
    rw [dayNumber, hdyear] at hnumber
    rw [hdyear] at hdday
    rcases eq_of_mem_month hdmonth.1 hdday hm.1 hday (by omega) with ⟨hmonth, hdays⟩
    exact ⟨hdyear, hmonth, hdays⟩

theorem dayNumber_first : first.dayNumber = daysBeforeYear minYear + 1 := by decide

theorem dayNumber_last : last.dayNumber = daysBeforeYear (maxYear + 1) := by decide

/-- The calendar has a day for every number from its first to its last. -/
theorem exists_dayNumber_iff {number : Int} :
    (∃ d : Date, d.dayNumber = number) ↔
      first.dayNumber ≤ number ∧ number ≤ last.dayNumber := by
  have hyear := mem_yearOf number
  simp only [← ofDayNumber?_eq_some_iff]
  rcases ofDayNumber?_eq_ofCivil? number with ⟨month, day, hcivil, hmonth, hday, -⟩
  -- What decides is the year, and the years begin in their order.
  have hexists : (∃ d, ofCivil? (yearOf number) month day = some d) ↔
      minYear ≤ yearOf number ∧ yearOf number ≤ maxYear := by
    constructor
    · rintro ⟨d, hd⟩
      rw [← (ofCivil?_eq_some_iff.mp hd).1]
      exact d.existing.1
    · exact fun h => ⟨_, dif_pos ⟨h, hmonth, hday⟩⟩
  rw [hcivil, hexists, dayNumber_first, dayNumber_last]
  constructor
  · rintro ⟨hmin, hmax⟩
    have hbegin : ¬daysBeforeYear (yearOf number) < daysBeforeYear minYear := by
      rw [daysBeforeYear_lt_iff]
      omega
    have hend : ¬daysBeforeYear (maxYear + 1) < daysBeforeYear (yearOf number + 1) := by
      rw [daysBeforeYear_lt_iff]
      omega
    omega
  · rintro ⟨hmin, hmax⟩
    have hbegin : minYear < yearOf number + 1 := daysBeforeYear_lt_iff.mp (by omega)
    have hend : yearOf number < maxYear + 1 := daysBeforeYear_lt_iff.mp (by omega)
    omega

theorem dayNumber_injective : Function.Injective dayNumber := by
  intro d d' h
  have hd := ofDayNumber?_eq_some_iff.mpr h
  rw [ofDayNumber?_eq_some_iff.mpr rfl] at hd
  exact (Option.some.inj hd).symm

/-- To move by days is to add to the day number. -/
theorem addDays?_eq_some_iff {d moved : Date} {days : Int} :
    d.addDays? days = some moved ↔ moved.dayNumber = d.dayNumber + days :=
  ofDayNumber?_eq_some_iff

end Date

end GridQuery
