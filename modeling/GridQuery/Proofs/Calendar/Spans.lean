import GridQuery.Filter.Window
import GridQuery.Proofs.Calendar.DayNumber
import GridQuery.Proofs.Outcome

/-!
# Months and Years as Spans of Days

The windows of a month and of a year, and the dates in them.

A window is given by its two ends, and what is in it is decided by day numbers. A month or a year is
given by the parts of a date. The two are brought together by one fact, that dates are ordered by
their day numbers as they are by year, month and day, in this order of weight. With it a span whose
ends agree in some parts and have the smallest and the largest value of all others is the set of
dates that agree with both in those parts.

The last day of a month is found as the day before the first of the next month. That the walk over
the end of the month comes back into it is where the lengths of months and years are needed.

## Main definitions

* `Date.lastOfMonth`: The last day of the month of a day.

## Theorems

* `Date.lt_iff_parts`: The order of dates by their parts.
* `Date.mem_month_iff`, `Date.mem_year_iff`: The dates of a month and of a year.
* `Window.ofMonth_eq_ok`, `Window.ofYear_eq_ok`: The ends of the windows.
-/

namespace GridQuery

namespace Date

theorem le_iff_dayNumber {d e : Date} : d ≤ e ↔ d.dayNumber ≤ e.dayNumber := Iff.rfl

theorem lt_iff_dayNumber {d e : Date} : d < e ↔ d.dayNumber < e.dayNumber := Iff.rfl

/-! ## The order of dates -/

theorem dayNumber_lt_of_year_lt {d e : Date} (h : d.year < e.year) :
    d.dayNumber < e.dayNumber := by
  have hplace := mem_yearLength d
  have hplace' := mem_yearLength e
  have hsucc := daysBeforeYear_succ d.year
  -- The year after that of the first date does not begin later than that of the second.
  have hbegin : ¬daysBeforeYear e.year < daysBeforeYear (d.year + 1) := by
    rw [daysBeforeYear_lt_iff]
    omega
  rw [dayNumber, dayNumber]
  omega

theorem dayNumber_lt_of_month_lt {d e : Date} (hyear : d.year = e.year)
    (h : d.month < e.month) : d.dayNumber < e.dayNumber := by
  rcases d.existing with ⟨-, ⟨hmonth, -⟩, -, hday⟩
  rcases e.existing with ⟨-, ⟨hmonth', -⟩, hday', -⟩
  have hsucc := daysBeforeMonth_succ d.year hmonth
  have hbegin : ¬daysBeforeMonth d.year e.month < daysBeforeMonth d.year (d.month + 1) := by
    rw [daysBeforeMonth_lt_iff d.year hmonth' (Nat.le_add_left 1 d.month)]
    omega
  rw [dayNumber, dayNumber, ← hyear]
  omega

theorem dayNumber_lt_of_day_lt {d e : Date} (hyear : d.year = e.year) (hmonth : d.month = e.month)
    (h : d.day < e.day) : d.dayNumber < e.dayNumber := by
  rw [dayNumber, dayNumber, hyear, hmonth]
  omega

/-- Dates are ordered by year, then by month, then by day. -/
theorem lt_iff_parts {d e : Date} :
    d < e ↔ d.year < e.year ∨
      d.year = e.year ∧ (d.month < e.month ∨ d.month = e.month ∧ d.day < e.day) := by
  constructor
  · intro h
    rw [lt_iff_dayNumber] at h
    by_contra hparts
    -- Otherwise the parts are in the opposite order, or the dates are one.
    have hcases : e.year < d.year ∨ e.year = d.year ∧ e.month < d.month ∨
        e.year = d.year ∧ e.month = d.month ∧ e.day < d.day ∨
        d.year = e.year ∧ d.month = e.month ∧ d.day = e.day := by omega
    rcases hcases with hyear | ⟨hyear, hmonth⟩ | ⟨hyear, hmonth, hday⟩ | ⟨hyear, hmonth, hday⟩
    · exact absurd (dayNumber_lt_of_year_lt hyear) (by omega)
    · exact absurd (dayNumber_lt_of_month_lt hyear hmonth) (by omega)
    · exact absurd (dayNumber_lt_of_day_lt hyear hmonth hday) (by omega)
    · rw [dayNumber, dayNumber, hyear, hmonth, hday] at h
      exact Int.lt_irrefl _ h
  · rintro (hyear | ⟨hyear, hmonth | ⟨hmonth, hday⟩⟩)
    · exact dayNumber_lt_of_year_lt hyear
    · exact dayNumber_lt_of_month_lt hyear hmonth
    · exact dayNumber_lt_of_day_lt hyear hmonth hday

theorem le_iff_not_lt {d e : Date} : d ≤ e ↔ ¬e < d := Int.not_lt.symm

theorem eq_iff_parts {d e : Date} :
    d = e ↔ d.year = e.year ∧ d.month = e.month ∧ d.day = e.day := by
  cases d
  cases e
  simp only [mk.injEq]

theorem lt_iff_le_and_ne {d e : Date} : d < e ↔ d ≤ e ∧ d ≠ e := by
  rw [lt_iff_dayNumber, le_iff_dayNumber, ← dayNumber_injective.ne_iff]
  omega

/-! ## Months and years -/

/-- The last day of the month of a day. -/
def lastOfMonth (d : Date) : Date :=
  ⟨d.year, d.month, monthLength d.year d.month, d.existing.1, d.existing.2.1,
    monthLength_pos d.year d.month, Nat.le_refl _⟩

/-- The dates between the ends of a month are those with its year and month. -/
theorem mem_month_iff {d e : Date} :
    d.firstOfMonth ≤ e ∧ e ≤ d.lastOfMonth ↔ e.year = d.year ∧ e.month = d.month := by
  rcases e.existing with ⟨-, -, hday, hday'⟩
  simp only [le_iff_not_lt, lt_iff_parts, firstOfMonth, lastOfMonth]
  constructor
  · omega
  · rintro ⟨hyear, hmonth⟩
    rw [hyear, hmonth] at hday'
    omega

/-- The dates between the first and the last day of a year are those of the year. -/
theorem mem_year_iff {year : Int} {first last e : Date}
    (hfirst : first.year = year ∧ first.month = 1 ∧ first.day = 1)
    (hlast : last.year = year ∧ last.month = 12 ∧ last.day = 31) :
    first ≤ e ∧ e ≤ last ↔ e.year = year := by
  rcases e.existing with ⟨-, hmonth, hday, hday'⟩
  have hlength := monthLength_le e.year e.month
  simp only [le_iff_not_lt, lt_iff_parts, hfirst, hlast]
  omega

/-! ## Their windows -/

theorem shiftMonths_eq_ok {d moved : Date} {count : Int} :
    d.shiftMonths count = .ok moved ↔ d.addMonths? count = some moved := by
  unfold shiftMonths
  split <;> simp_all

theorem ofYear_eq_ok {year : Int} {month day : Nat} {d : Date} :
    ofYear year month day = .ok d ↔ d.year = year ∧ d.month = month ∧ d.day = day := by
  rw [← ofCivil?_eq_some_iff]
  unfold ofYear
  split <;> simp_all

/-- The month after the month of a first day begins on the day after its last one. -/
theorem dayNumber_nextMonth {d next : Date} (h : d.firstOfMonth.addMonths? 1 = some next) :
    next.dayNumber = d.lastOfMonth.dayNumber + 1 := by
  rcases d.existing with ⟨-, ⟨hmonth, hmonth'⟩, -⟩
  rw [addMonths?, ofCivil?_eq_some_iff] at h
  simp only [firstOfMonth] at h
  rcases h with ⟨hyear, hnext, hday⟩
  have hpos := monthLength_pos next.year next.month
  rw [← hyear, ← hnext, Nat.min_eq_left hpos] at hday
  rw [dayNumber, dayNumber, hday]
  simp only [lastOfMonth]
  by_cases hdecember : d.month = 12
  · -- After December comes January of the next year.
    have hyear' : next.year = d.year + 1 := by omega
    have hnext' : next.month = 1 := by omega
    have hsucc := daysBeforeYear_succ d.year
    have hlength : daysOfMonths d.year 12 = daysBeforeMonth d.year 12 + monthLength d.year 12 := rfl
    have hjanuary : daysBeforeMonth (d.year + 1) 1 = 0 := rfl
    rw [daysOfMonths_twelve] at hlength
    rw [hyear', hnext', hdecember, hjanuary]
    omega
  · -- Within a year the next month has the days of this one before it as well.
    have hyear' : next.year = d.year := by omega
    have hnext' : next.month = d.month + 1 := by omega
    have hsucc := daysBeforeMonth_succ d.year hmonth
    rw [hyear', hnext']
    omega

end Date

namespace Window

/-- The window of a month is from its first to its last day. -/
theorem ofMonth_eq_ok {d : Date} {w : Window} (h : ofMonth d = .ok w) :
    w = .range d.firstOfMonth d.lastOfMonth := by
  rcases bind_eq_ok_iff.1 h with ⟨next, hnext, hrest⟩
  rcases bind_eq_ok_iff.1 hrest with ⟨last, hlast, heq⟩
  have hnumber := Date.dayNumber_nextMonth (Date.shiftMonths_eq_ok.1 hnext)
  rw [Date.shift_eq_ok, Date.addDays?_eq_some_iff, hnumber, Int.add_neg_cancel_right] at hlast
  rw [← Date.dayNumber_injective hlast]
  exact (Except.ok.inj heq).symm

/-- The window of a year is from the first of January to the last of December. -/
theorem ofYear_eq_ok {year : Int} {w : Window} (h : ofYear year = .ok w) :
    ∃ first last, w = .range first last ∧
      (first.year = year ∧ first.month = 1 ∧ first.day = 1) ∧
      (last.year = year ∧ last.month = 12 ∧ last.day = 31) := by
  rcases bind_eq_ok_iff.1 h with ⟨first, hfirst, hrest⟩
  rcases bind_eq_ok_iff.1 hrest with ⟨last, hlast, heq⟩
  exact ⟨first, last, (Except.ok.inj heq).symm, Date.ofYear_eq_ok.1 hfirst,
    Date.ofYear_eq_ok.1 hlast⟩

end Window

end GridQuery
