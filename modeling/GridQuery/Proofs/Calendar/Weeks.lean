import GridQuery.Proofs.Calendar.Spans
import Mathlib.Data.Int.Interval
import Mathlib.Data.Set.Card

/-!
# Weeks as Spans of Days

The windows of the week of a day and of the weeks beside it, and how they lie to each other.

All three are moves from the day by its place in the week. The places begin with two for a Monday
and go up to eight for a Sunday, so that a Sunday is not the first day of a week here but the one
after the last of the week before it. The week of a day is then seven days from a Sunday on, and the
week before is the seven days up to it. The next week is not the one that follows. It begins on the
last day of the week of the day, a Saturday, and ends with the Saturday after, and has eight days.

What is said of days in a window is arithmetic of day numbers, and the number of the days is the
length of the interval of their numbers. No number is missing, since the calendar has a day for
every number between two that it has.

## Main definitions

* `Window.days`: The days of a window.

## Theorems

* `Window.ncard_days_range`: A range has as many days as its ends are apart, and one.
* `Window.between_eq_ok_iff`: The ends of a range of moves.
* `Modifier.weeks_of_day`: The three weeks of a day.
* `Modifier.not_consecutive_weeks`: A next week that begins too early, and a day that is not in its
  week.
-/

namespace GridQuery

namespace Window

/-- The days of a window. -/
def days : Window → Set Date
  | .day d => {d}
  | .range first last => {d | first ≤ d ∧ d ≤ last}

theorem mem_days_range {first last d : Date} :
    d ∈ (range first last).days ↔
      first.dayNumber ≤ d.dayNumber ∧ d.dayNumber ≤ last.dayNumber := Iff.rfl

/-- A range has as many days as its ends are apart, and one. -/
theorem ncard_days_range (first last : Date) :
    (range first last).days.ncard = (last.dayNumber + 1 - first.dayNumber).toNat := by
  have hfirst := Date.exists_dayNumber_iff.mp ⟨first, rfl⟩
  have hlast := Date.exists_dayNumber_iff.mp ⟨last, rfl⟩
  -- Counting the days is counting their numbers, and none of those between the ends is missing.
  have himage : Date.dayNumber '' (range first last).days =
      ↑(Finset.Icc first.dayNumber last.dayNumber) := by
    ext number
    rw [Finset.coe_Icc, Set.mem_Icc]
    constructor
    · rintro ⟨d, hd, rfl⟩
      exact mem_days_range.mp hd
    · intro hbetween
      have hexists : ∃ d : Date, d.dayNumber = number :=
        Date.exists_dayNumber_iff.mpr (by omega)
      rcases hexists with ⟨d, rfl⟩
      exact ⟨d, mem_days_range.mpr hbetween, rfl⟩
  rw [← Set.ncard_image_of_injective _ Date.dayNumber_injective, himage, Set.ncard_coe_finset,
    Int.card_Icc]

theorem ncard_days_range_of_eq {first last : Date} {n : Nat}
    (h : last.dayNumber + 1 = first.dayNumber + n) : (range first last).days.ncard = n := by
  rw [ncard_days_range]
  omega

/-- A range that ends before another begins has no day in common with it. -/
theorem days_range_inter_eq_empty {first last first' last' : Date}
    (h : last.dayNumber < first'.dayNumber) :
    (range first last).days ∩ (range first' last').days = ∅ := by
  refine Set.eq_empty_iff_forall_notMem.mpr fun d hd => ?_
  rw [Set.mem_inter_iff, mem_days_range, mem_days_range] at hd
  omega

/-- A range of moves from a day has its ends where their numbers say. -/
theorem between_eq_ok_iff {d : Date} {a b : Int} {w : Window} :
    between d a b = .ok w ↔ ∃ first last, w = .range first last ∧
      first.dayNumber = d.dayNumber + a ∧ last.dayNumber = d.dayNumber + b := by
  constructor
  · intro h
    rcases bind_eq_ok_iff.1 h with ⟨first, hfirst, hrest⟩
    rcases bind_eq_ok_iff.1 hrest with ⟨last, hlast, heq⟩
    rw [Date.shift_eq_ok, Date.addDays?_eq_some_iff] at hfirst hlast
    exact ⟨first, last, (Except.ok.inj heq).symm, hfirst, hlast⟩
  · rintro ⟨first, last, rfl, hfirst, hlast⟩
    rw [← Date.addDays?_eq_some_iff, ← Date.shift_eq_ok] at hfirst hlast
    exact bind_eq_ok_iff.2 ⟨first, hfirst, bind_eq_ok_iff.2 ⟨last, hlast, rfl⟩⟩

end Window

namespace Modifier

/-- Where the past week, this week and the next week of a day are all in the calendar, the past week
and this week are seven days each that begin on a Sunday, and the one follows the other. This week
has the day in it unless the day is a Sunday, and then it is over on the day before. The next week
is the eight days that begin with the last day of this week. So it has that day in common with it,
and none with the past week. -/
theorem weeks_of_day {today : Date} {term term' term'' : String} {past this next : Window}
    (hpast : thePastWeek.window today term = .ok past)
    (hthis : thisWeek.window today term' = .ok this)
    (hnext : theNextWeek.window today term'' = .ok next) :
    ∃ pastFirst pastLast first last nextLast : Date,
      past = .range pastFirst pastLast ∧ this = .range first last ∧ next = .range last nextLast ∧
      past.days.ncard = 7 ∧ this.days.ncard = 7 ∧ next.days.ncard = 8 ∧
      pastFirst.weekday = 7 ∧ first.weekday = 7 ∧ last.weekday = 6 ∧
      first.dayNumber = pastLast.dayNumber + 1 ∧
      past.days ∩ this.days = ∅ ∧ past.days ∩ next.days = ∅ ∧
      this.days ∩ next.days = {last} ∧
      (today ∈ this.days ↔ today.weekday ≠ 7) ∧
      (today.weekday = 7 → today.dayNumber = last.dayNumber + 1) := by
  rcases Window.between_eq_ok_iff.mp hpast with ⟨pastFirst, pastLast, rfl, hpastFirst, hpastLast⟩
  rcases Window.between_eq_ok_iff.mp hthis with ⟨first, last, rfl, hfirst, hlast⟩
  rcases Window.between_eq_ok_iff.mp hnext with ⟨nextFirst, nextLast, rfl, hnextFirst, hnextLast⟩
  -- The next week begins where this week ends.
  obtain rfl : nextFirst = last := Date.dayNumber_injective (by rw [hnextFirst, hlast])
  have hweekday : today.weekday = (today.dayNumber - 1) % 7 + 1 := rfl
  -- Taking off the place in the week gives a number that 7 divides, whatever the day is.
  have hpastSunday : pastFirst.weekday = 7 := by
    rw [Date.weekday]
    omega
  have hsunday : first.weekday = 7 := by
    rw [Date.weekday]
    omega
  have hsaturday : nextFirst.weekday = 6 := by
    rw [Date.weekday]
    omega
  have hcommon : (Window.range first nextFirst).days ∩ (Window.range nextFirst nextLast).days =
      {nextFirst} := by
    ext d
    rw [Set.mem_inter_iff, Set.mem_singleton_iff, Window.mem_days_range, Window.mem_days_range,
      ← Date.dayNumber_injective.eq_iff]
    omega
  have hmem : today ∈ (Window.range first nextFirst).days ↔ today.weekday ≠ 7 := by
    rw [Window.mem_days_range]
    omega
  exact ⟨pastFirst, pastLast, first, nextFirst, nextLast, rfl, rfl, rfl,
    Window.ncard_days_range_of_eq (by omega), Window.ncard_days_range_of_eq (by omega),
    Window.ncard_days_range_of_eq (by omega), hpastSunday, hsunday, hsaturday, by omega,
    Window.days_range_inter_eq_empty (by omega), Window.days_range_inter_eq_empty (by omega),
    hcommon, hmem, by omega⟩

/-- The day is a Sunday, the first of a leap year, and the week before it is this week. -/
theorem weeks_of_day_sunday :
    let today : Date := ⟨2012, 1, 1, by decide⟩
    let last : Date := ⟨2011, 12, 31, by decide⟩
    let this : Window := .range ⟨2011, 12, 25, by decide⟩ last
    let next : Window := .range last ⟨2012, 1, 7, by decide⟩
    thePastWeek.window today "" =
        .ok (.range ⟨2011, 12, 18, by decide⟩ ⟨2011, 12, 24, by decide⟩) ∧
      thisWeek.window today "" = .ok this ∧ theNextWeek.window today "" = .ok next ∧
      next.days.ncard = 8 ∧ this.days ∩ next.days = {last} ∧ today ∉ this.days := by
  intro today last this next
  have hpast : thePastWeek.window today "" =
      .ok (.range ⟨2011, 12, 18, by decide⟩ ⟨2011, 12, 24, by decide⟩) := by decide +kernel
  have hthis : thisWeek.window today "" = .ok this := by decide +kernel
  have hnext : theNextWeek.window today "" = .ok next := by decide +kernel
  rcases weeks_of_day hpast hthis hnext with
    ⟨_, _, first, last', nextLast, -, heq, -, -, -, hncard, -, -, -, -, -, -, hcommon, hmem, -⟩
  obtain ⟨-, rfl⟩ := Window.range.inj heq
  exact ⟨hpast, hthis, hnext, hncard, hcommon, fun h => hmem.mp h (by decide)⟩

/-- Seen from a Monday, the next week begins on a Saturday that is in this week; and seen from the
Sunday before, this week does not have the day in it. -/
theorem not_consecutive_weeks :
    let monday : Date := ⟨2021, 12, 6, by decide⟩
    let sunday : Date := ⟨2021, 12, 5, by decide⟩
    let saturday : Date := ⟨2021, 12, 11, by decide⟩
    (∃ past, thePastWeek.window monday "" = .ok past) ∧
      thisWeek.window monday "" = .ok (.range sunday saturday) ∧
      theNextWeek.window monday "" = .ok (.range saturday ⟨2021, 12, 18, by decide⟩) ∧
      saturday.weekday = 6 ∧
      (∃ past, thePastWeek.window sunday "" = .ok past) ∧
      thisWeek.window sunday "" =
        .ok (.range ⟨2021, 11, 28, by decide⟩ ⟨2021, 12, 4, by decide⟩) ∧
      (∃ next, theNextWeek.window sunday "" = .ok next) ∧
      ¬sunday ≤ ⟨2021, 12, 4, by decide⟩ := by
  intro monday sunday saturday
  refine ⟨⟨.range ⟨2021, 11, 28, by decide⟩ ⟨2021, 12, 4, by decide⟩, ?_⟩, ?_, ?_, ?_,
    ⟨.range ⟨2021, 11, 21, by decide⟩ ⟨2021, 11, 27, by decide⟩, ?_⟩, ?_,
    ⟨.range ⟨2021, 12, 4, by decide⟩ saturday, ?_⟩, ?_⟩
  all_goals decide +kernel

end Modifier

end GridQuery
