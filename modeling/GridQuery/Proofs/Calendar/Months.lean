import GridQuery.Proofs.Calendar.Weeks

/-!
# Months and Years Beside Each Other

The windows of the month and of the year of a day, those of the months and years beside them, and
the days that are a month away.

Months are counted through all years. The month before a January is then the one with the number
before, and it takes no case to say that it is a December. A date is found from the number of its
month and its day, dates are ordered by the two, and to move by months is to add to the number and
to cut the day to the length of the month that is reached.

The window of a month is the set of the dates with its number, whatever day it was found from, so
the neighbours of a month may be found from a day that was moved and cut. That windows of months
with numbers in a row leave no gap is the walk over the end of a month. A year ends with a month and
begins with one, and so it is that walk for years as well.

## Main definitions

* `Date.monthNumber`: The number of the month of a date, counted through all years.
* `Window.IsRangeOf`: The days of a range are those of a set.
* `Window.Meets`: One range begins on the day after another ends.
* `Modifier.Means`: A modifier means a window on a day, with some term.

## Theorems

* `Date.le_iff_monthNumber`: The order of dates by month and day.
* `Date.addMonths?_eq_some_iff`: To move by months is to add to the number of the month.
* `Window.isRangeOf_ofMonth`, `Window.isRangeOf_ofYear`: The dates of a month and of a year.
* `Window.meets_ofMonth`, `Window.meets_ofYear`: Neighbouring months and years have no gap.
* `Modifier.months_and_years_of_day`: The months and years of a day, and the days a month away.
-/

namespace GridQuery

namespace Date

/-- The number of the month of a date, counted through all years. -/
def monthNumber (d : Date) : Int :=
  d.year * 12 + d.month

theorem monthNumber_eq_iff {d e : Date} :
    d.monthNumber = e.monthNumber ↔ d.year = e.year ∧ d.month = e.month := by
  rcases d.existing with ⟨-, hmonth, -⟩
  rcases e.existing with ⟨-, hmonth', -⟩
  rw [monthNumber, monthNumber]
  omega

/-- Dates are ordered by month, then by day. -/
theorem le_iff_monthNumber {d e : Date} :
    d ≤ e ↔ d.monthNumber < e.monthNumber ∨ d.monthNumber = e.monthNumber ∧ d.day ≤ e.day := by
  rcases d.existing with ⟨-, hmonth, -⟩
  rcases e.existing with ⟨-, hmonth', -⟩
  rw [le_iff_not_lt, lt_iff_parts, monthNumber, monthNumber]
  omega

/-- To move by months is to add to the number of the month, and to cut the day to its length. -/
theorem addMonths?_eq_some_iff {d moved : Date} {months : Int} :
    d.addMonths? months = some moved ↔ moved.monthNumber = d.monthNumber + months ∧
      moved.day = min d.day (monthLength moved.year moved.month) := by
  rcases d.existing with ⟨-, ⟨hmonth, -⟩, -⟩
  rcases moved.existing with ⟨-, hmonth', -⟩
  -- The year and the month are the quotient and the remainder of one number by twelve.
  have hparts : moved.year = (d.year * 12 + (d.month - 1 : Nat) + months) / 12 ∧
      moved.month = ((d.year * 12 + (d.month - 1 : Nat) + months) % 12).toNat + 1 ↔
        moved.monthNumber = d.monthNumber + months := by
    rw [monthNumber, monthNumber]
    omega
  rw [addMonths?, ofCivil?_eq_some_iff, ← hparts, and_assoc]
  refine and_congr_right fun hyear => and_congr_right fun hnumber => ?_
  rw [← hyear, ← hnumber]

/-- A month ends on the day before the next one begins. -/
theorem dayNumber_firstOfMonth {d e : Date} (h : e.monthNumber = d.monthNumber + 1) :
    e.firstOfMonth.dayNumber = d.lastOfMonth.dayNumber + 1 :=
  dayNumber_nextMonth (addMonths?_eq_some_iff.2 ⟨h, (Nat.min_eq_left (monthLength_pos _ _)).symm⟩)

end Date

namespace Window

open Date

/-- The window is a range, and its days are those of the set. -/
def IsRangeOf (w : Window) (s : Set Date) : Prop :=
  (∃ first last, w = .range first last) ∧ w.days = s

/-- The windows are ranges, and the second begins on the day after the first ends. -/
def Meets (w w' : Window) : Prop :=
  ∃ first last first' last', w = .range first last ∧ w' = .range first' last' ∧
    first'.dayNumber = last.dayNumber + 1

theorem isRangeOf_ofMonth {d : Date} {w : Window} (h : ofMonth d = .ok w) :
    w.IsRangeOf {e | e.monthNumber = d.monthNumber} := by
  obtain rfl := ofMonth_eq_ok h
  exact ⟨⟨_, _, rfl⟩, Set.ext fun e => mem_month_iff.trans monthNumber_eq_iff.symm⟩

theorem isRangeOf_ofYear {year : Int} {w : Window} (h : ofYear year = .ok w) :
    w.IsRangeOf {e | e.year = year} := by
  rcases ofYear_eq_ok h with ⟨first, last, rfl, hfirst, hlast⟩
  exact ⟨⟨_, _, rfl⟩, Set.ext fun e => mem_year_iff hfirst hlast⟩

theorem meets_ofMonth {d e : Date} {w w' : Window} (h : e.monthNumber = d.monthNumber + 1)
    (hw : ofMonth d = .ok w) (hw' : ofMonth e = .ok w') : w.Meets w' :=
  ⟨_, _, _, _, ofMonth_eq_ok hw, ofMonth_eq_ok hw', dayNumber_firstOfMonth h⟩

/-- A year ends with a December and begins with a January, and these meet. -/
theorem meets_ofYear {year : Int} {w w' : Window} (hw : ofYear year = .ok w)
    (hw' : ofYear (year + 1) = .ok w') : w.Meets w' := by
  rcases ofYear_eq_ok hw with ⟨first, last, rfl, -, hyear, hmonth, hday⟩
  rcases ofYear_eq_ok hw' with ⟨first', last', rfl, ⟨hyear', hmonth', hday'⟩, -⟩
  have hnumber : first'.monthNumber = last.monthNumber + 1 := by
    rw [monthNumber, monthNumber, hyear, hyear', hmonth, hmonth']
    omega
  -- The first and the last day of a year are those of their months as well.
  have hfirst : first'.firstOfMonth = first' := eq_iff_parts.2 ⟨rfl, rfl, hday'.symm⟩
  have hlength : monthLength last.year last.month = 31 := by
    rw [hmonth]
    rfl
  have hlast : last.lastOfMonth = last := eq_iff_parts.2 ⟨rfl, rfl, hlength.trans hday.symm⟩
  have hmeets := dayNumber_firstOfMonth hnumber
  rw [hfirst, hlast] at hmeets
  exact ⟨_, _, _, _, rfl, rfl, hmeets⟩

/-- The month of a day that was moved by months. -/
theorem ofMonth_shiftMonths {today : Date} {months : Int} {w : Window}
    (h : (today.shiftMonths months >>= ofMonth) = .ok w) :
    ∃ d, d.monthNumber = today.monthNumber + months ∧ ofMonth d = .ok w := by
  rcases bind_eq_ok_iff.1 h with ⟨d, hd, hw⟩
  exact ⟨d, (addMonths?_eq_some_iff.1 (shiftMonths_eq_ok.1 hd)).1, hw⟩

theorem day_shiftMonths {today : Date} {months : Int} {w : Window}
    (h : day <$> today.shiftMonths months = .ok w) :
    ∃ d, w = .day d ∧ d.monthNumber = today.monthNumber + months ∧
      d.day = min today.day (monthLength d.year d.month) := by
  rcases map_eq_ok_iff.1 h with ⟨d, hd, rfl⟩
  exact ⟨d, rfl, addMonths?_eq_some_iff.1 (shiftMonths_eq_ok.1 hd)⟩

end Window

namespace Modifier

open Date

/-- The modifier means the window on the day, with some term. -/
def Means (modifier : Modifier) (today : Date) (w : Window) : Prop :=
  ∃ term, modifier.window today term = .ok w

variable {today : Date} {w : Window}

theorem means_thisMonth (h : thisMonth.Means today w) : Window.ofMonth today = .ok w :=
  h.elim fun _ h => h

theorem means_thePastMonth (h : thePastMonth.Means today w) :
    ∃ d, d.monthNumber = today.monthNumber - 1 ∧ Window.ofMonth d = .ok w :=
  h.elim fun _ h => Window.ofMonth_shiftMonths h

theorem means_theNextMonth (h : theNextMonth.Means today w) :
    ∃ d, d.monthNumber = today.monthNumber + 1 ∧ Window.ofMonth d = .ok w :=
  h.elim fun _ h => Window.ofMonth_shiftMonths h

/-- A day a month away is in the month that the window of a neighbour is of. -/
theorem mem_days_of_monthNumber {number : Int} {d : Date} (hd : d.monthNumber = number)
    (h : ∃ e, e.monthNumber = number ∧ Window.ofMonth e = .ok w) : d ∈ w.days := by
  rcases h with ⟨e, he, hw⟩
  rw [(Window.isRangeOf_ofMonth hw).2]
  exact hd.trans he.symm

/-- Seen from any day, and as far as the windows are in the calendar: this month and this year are
the dates with the month and the year of the day. The past and the next month are those of the
neighbouring months, the past month ends on the day before this month begins, and the next month
begins on the day after it ends; and so it is for years. A month ago and a month from now are in
these months, on the same day of the month or on its last if the month is too short. -/
theorem months_and_years_of_day (today : Date) :
    (∀ this, thisMonth.Means today this →
      this.IsRangeOf {d | d.year = today.year ∧ d.month = today.month}) ∧
    (∀ this, thisYear.Means today this → this.IsRangeOf {d | d.year = today.year}) ∧
    (∀ past, thePastMonth.Means today past →
      past.IsRangeOf {d | d.monthNumber = today.monthNumber - 1} ∧
      ∀ this, thisMonth.Means today this → past.Meets this) ∧
    (∀ next, theNextMonth.Means today next →
      next.IsRangeOf {d | d.monthNumber = today.monthNumber + 1} ∧
      ∀ this, thisMonth.Means today this → this.Meets next) ∧
    (∀ past, thePastYear.Means today past →
      past.IsRangeOf {d | d.year = today.year - 1} ∧
      ∀ this, thisYear.Means today this → past.Meets this) ∧
    (∀ next, theNextYear.Means today next →
      next.IsRangeOf {d | d.year = today.year + 1} ∧
      ∀ this, thisYear.Means today this → this.Meets next) ∧
    (∀ ago, oneMonthAgo.Means today ago → ∃ d, ago = .day d ∧
      d.monthNumber = today.monthNumber - 1 ∧
      d.day = min today.day (monthLength d.year d.month) ∧
      ∀ past, thePastMonth.Means today past → d ∈ past.days) ∧
    ∀ later, oneMonthFromNow.Means today later → ∃ d, later = .day d ∧
      d.monthNumber = today.monthNumber + 1 ∧
      d.day = min today.day (monthLength d.year d.month) ∧
      ∀ next, theNextMonth.Means today next → d ∈ next.days := by
  refine ⟨?thisMonth, ?thisYear, ?pastMonth, ?nextMonth, ?pastYear, ?nextYear, ?ago, ?later⟩
  case thisMonth =>
    intro this hthis
    have hrange := Window.isRangeOf_ofMonth (means_thisMonth hthis)
    simpa only [monthNumber_eq_iff] using hrange
  case thisYear =>
    rintro this ⟨_, hthis⟩
    exact Window.isRangeOf_ofYear hthis
  case pastMonth =>
    intro past hpast
    -- The day the window was found from was cut, but of a day a window has only its month.
    rcases means_thePastMonth hpast with ⟨d, hd, hw⟩
    refine ⟨hd ▸ Window.isRangeOf_ofMonth hw, fun this hthis => ?_⟩
    exact Window.meets_ofMonth (by omega) hw (means_thisMonth hthis)
  case nextMonth =>
    intro next hnext
    rcases means_theNextMonth hnext with ⟨d, hd, hw⟩
    exact ⟨hd ▸ Window.isRangeOf_ofMonth hw, fun this hthis =>
      Window.meets_ofMonth hd (means_thisMonth hthis) hw⟩
  case pastYear =>
    rintro past ⟨_, hpast⟩
    refine ⟨Window.isRangeOf_ofYear hpast, ?_⟩
    rintro this ⟨_, hthis⟩
    -- This year is the one after the past year.
    exact Window.meets_ofYear hpast (by rwa [Int.sub_add_cancel])
  case nextYear =>
    rintro next ⟨_, hnext⟩
    refine ⟨Window.isRangeOf_ofYear hnext, ?_⟩
    rintro this ⟨_, hthis⟩
    exact Window.meets_ofYear hthis hnext
  case ago =>
    rintro ago ⟨_, hago⟩
    rcases Window.day_shiftMonths hago with ⟨d, rfl, hmonth, hday⟩
    exact ⟨d, rfl, hmonth, hday, fun past hpast =>
      mem_days_of_monthNumber hmonth (means_thePastMonth hpast)⟩
  case later =>
    rintro later ⟨_, hlater⟩
    rcases Window.day_shiftMonths hlater with ⟨d, rfl, hmonth, hday⟩
    exact ⟨d, rfl, hmonth, hday, fun next hnext =>
      mem_days_of_monthNumber hmonth (means_theNextMonth hnext)⟩

/-- The month before is in another year, and the month after is the February of a century that is a
leap year, in which the day is cut. -/
theorem months_and_years_of_day_century :
    let today : Date := ⟨2000, 1, 31, by decide⟩
    let cut : Date := ⟨2000, 2, 29, by decide⟩
    let past : Window := .range ⟨1999, 12, 1, by decide⟩ ⟨1999, 12, 31, by decide⟩
    let this : Window := .range ⟨2000, 1, 1, by decide⟩ today
    let next : Window := .range ⟨2000, 2, 1, by decide⟩ cut
    thePastMonth.Means today past ∧ thisMonth.Means today this ∧ theNextMonth.Means today next ∧
      oneMonthFromNow.Means today (.day cut) ∧ past.Meets this ∧ this.Meets next ∧
      cut ∈ next.days := by
  intro today cut past this next
  have hpast : thePastMonth.Means today past := ⟨"", by decide +kernel⟩
  have hthis : thisMonth.Means today this := ⟨"", by decide +kernel⟩
  have hnext : theNextMonth.Means today next := ⟨"", by decide +kernel⟩
  have hlater : oneMonthFromNow.Means today (.day cut) := ⟨"", by decide +kernel⟩
  rcases months_and_years_of_day today with
    ⟨-, -, hpastMonth, hnextMonth, -, -, -, hmonthFromNow⟩
  rcases hmonthFromNow _ hlater with ⟨d, hd, -, -, hmem⟩
  obtain rfl := Window.day.inj hd
  exact ⟨hpast, hthis, hnext, hlater, (hpastMonth past hpast).2 this hthis,
    (hnextMonth next hnext).2 this hthis, hmem next hnext⟩

end Modifier

end GridQuery
