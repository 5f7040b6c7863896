import GridQuery.Proofs.Calendar.DayCounts

/-!
# Windows at the Ends of the Calendar

What a modifier means on a calendar without ends, and where the calendar with ends fails to say it.

Years, months and days are counted on beyond the first and the last day, so that what a modifier
means has numbers whether its days are there or not. A window should be found if and only if the
calendar has a day for each of these numbers. For one step that is a fact about the step alone: a
move, or a date made of its parts, finds the day with a number or fails because there is none. A
window of one day is one step, and the ends of a range are two, which do not look at each other; so
whatever is put together of such steps fails only for days that are not there.

The months are the exception. The last day of a month is looked for behind the first day of the next
month, and after the last month of the calendar there is no next one. That month is in the calendar
with all its days, and yet no window of it is found, seen from its own days or from the month
before. A year ends with the last of December, which is looked for under its own name, and so every
year of the calendar is found.

## Main definitions

* `Date.numberOf`, `Date.numberInMonth`: The number of a day that need not be in the calendar.
* `Date.InCalendar`: The calendar has a day with a number.
* `Span`, `Window.span`: A window as numbers of days.
* `Finds`: A step finds the day with a number, and fails if there is none.
* `Modifier.span?`: What a modifier means on a calendar without ends.
* `Modifier.monthMeant?`: The month whose days a modifier means.

## Theorems

* `Date.inCalendar_iff_yearOf`, `Date.inCalendar_numberOf_iff`: What decides is the year.
* `Date.dayNumber_eq_numberOf_iff`: A day is known by its number.
* `finds_shift`, `finds_shiftMonths`, `finds_ofYear`: The steps.
* `Window.map_day_eq_ok_iff`, `Window.bind_range_eq_ok_iff`: What is put together of them.
* `Window.exists_ofYear_iff`: Every year of the calendar is found.
* `Window.ofMonth_eq_ok_iff`: A month is found unless it is the last one.
* `Modifier.window_eq_ok_iff`: The windows that are found.
* `Modifier.window_fails_iff`: When a modifier fails to resolve.
* `Modifier.not_window_fails_only_outside`: A month of the calendar that is not found.
-/

namespace GridQuery

namespace Date

/-! ## Numbers beyond the calendar -/

/-- The number of the day with these parts, whether the calendar has the day or not. -/
def numberOf (year : Int) (month day : Nat) : Int :=
  daysBeforeYear year + daysBeforeMonth year month + day

/-- The calendar has a day with the number. -/
def InCalendar (number : Int) : Prop :=
  first.dayNumber ≤ number ∧ number ≤ last.dayNumber

/-- The parts name a day of a month, of whatever year. -/
def IsDayOf (year : Int) (month day : Nat) : Prop :=
  (1 ≤ month ∧ month ≤ 12) ∧ (1 ≤ day ∧ day ≤ monthLength year month)

instance (year : Int) (month day : Nat) : Decidable (IsDayOf year month day) :=
  inferInstanceAs (Decidable (_ ∧ _))

instance (number : Int) : Decidable (InCalendar number) :=
  inferInstanceAs (Decidable (_ ∧ _))

theorem isDayOf_parts (d : Date) : IsDayOf d.year d.month d.day :=
  d.existing.2

theorem isDayOf_newYear (year : Int) : IsDayOf year 1 1 :=
  ⟨by decide, Nat.le_refl 1, monthLength_pos year 1⟩

theorem isDayOf_yearEnd (year : Int) : IsDayOf year 12 31 :=
  ⟨by decide, by decide, Nat.le_refl 31⟩

theorem yearOf_numberOf {year : Int} {month day : Nat} (h : IsDayOf year month day) :
    yearOf (numberOf year month day) = year := by
  rcases h with ⟨⟨hmonth, hmonth'⟩, hday, hday'⟩
  have hsucc := daysBeforeMonth_succ year hmonth
  -- Month and day stay within the days of the year, so no later year has begun.
  have hle : daysBeforeMonth year (month + 1) ≤ daysOfMonths year 12 :=
    (daysOfMonths_strictMono year).monotone hmonth'
  rw [daysOfMonths_twelve] at hle
  rw [yearOf_eq_iff, daysBeforeYear_succ, numberOf]
  omega

/-- The years of the calendar are whole. -/
theorem inCalendar_iff_yearOf {number : Int} :
    InCalendar number ↔ minYear ≤ yearOf number ∧ yearOf number ≤ maxYear := by
  have hyear := mem_yearOf number
  have hbegins : ∀ year other, daysBeforeYear year < daysBeforeYear other ↔ year < other :=
    fun _ _ => daysBeforeYear_lt_iff
  -- The calendar begins and ends with a year, and only the borders of years are compared.
  have hmin := hbegins (yearOf number) minYear
  have hmin' := hbegins minYear (yearOf number + 1)
  have hmax := hbegins (yearOf number) (maxYear + 1)
  have hmax' := hbegins (maxYear + 1) (yearOf number + 1)
  rw [InCalendar, dayNumber_first, dayNumber_last]
  omega

theorem inCalendar_numberOf_iff {year : Int} {month day : Nat} (h : IsDayOf year month day) :
    InCalendar (numberOf year month day) ↔ minYear ≤ year ∧ year ≤ maxYear := by
  rw [inCalendar_iff_yearOf, yearOf_numberOf h]

theorem dayNumber_eq_numberOf_iff {d : Date} {year : Int} {month day : Nat}
    (h : IsDayOf year month day) :
    d.dayNumber = numberOf year month day ↔ d.year = year ∧ d.month = month ∧ d.day = day := by
  constructor
  · intro hnumber
    -- The number gives the year first; within one year it gives the month and the day.
    obtain rfl : d.year = year := by rw [← yearOf_dayNumber d, hnumber, yearOf_numberOf h]
    rcases isDayOf_parts d with ⟨hmonth, hday⟩
    rw [dayNumber, numberOf] at hnumber
    exact ⟨rfl, eq_of_mem_month hmonth.1 hday h.1.1 h.2 (by omega)⟩
  · rintro ⟨rfl, rfl, rfl⟩
    rfl

/-! ## Months beyond the calendar -/

/-- The year of the month with a number. -/
def yearOfMonth (number : Int) : Int :=
  (number - 1) / 12

/-- The place in its year of the month with a number. -/
def placeOfMonth (number : Int) : Nat :=
  ((number - 1) % 12).toNat + 1

/-- The number of a day of the month with a number; a day past the end of the month becomes its last
day. -/
def numberInMonth (number : Int) (day : Nat) : Int :=
  let year := yearOfMonth number
  let month := placeOfMonth number
  numberOf year month (min day (monthLength year month))

theorem monthNumber_eq_iff_parts {d : Date} {number : Int} :
    d.monthNumber = number ↔ d.year = yearOfMonth number ∧ d.month = placeOfMonth number := by
  rcases d.existing with ⟨-, hmonth, -⟩
  -- A month is one of twelve, so the number of the month has only one year and one place.
  rw [monthNumber, yearOfMonth, placeOfMonth]
  omega

theorem isDayOf_month (number : Int) {day : Nat} (hday : 1 ≤ day) :
    IsDayOf (yearOfMonth number) (placeOfMonth number)
      (min day (monthLength (yearOfMonth number) (placeOfMonth number))) := by
  have hpos := monthLength_pos (yearOfMonth number) (placeOfMonth number)
  have hplace : 1 ≤ placeOfMonth number ∧ placeOfMonth number ≤ 12 := by
    rw [placeOfMonth]
    omega
  exact ⟨hplace, by omega, Nat.min_le_right _ _⟩

theorem dayNumber_eq_numberInMonth_iff {d : Date} {number : Int} {day : Nat} (hday : 1 ≤ day) :
    d.dayNumber = numberInMonth number day ↔
      d.monthNumber = number ∧ d.day = min day (monthLength d.year d.month) := by
  refine (dayNumber_eq_numberOf_iff (isDayOf_month number hday)).trans ?_
  rw [monthNumber_eq_iff_parts, and_assoc]
  refine and_congr_right fun hyear => and_congr_right fun hmonth => ?_
  rw [hyear, hmonth]

theorem inCalendar_numberInMonth_iff {number : Int} {day : Nat} (hday : 1 ≤ day) :
    InCalendar (numberInMonth number day) ↔
      first.monthNumber ≤ number ∧ number ≤ last.monthNumber := by
  have hfirst : first.monthNumber = minYear * 12 + 1 := rfl
  have hlast : last.monthNumber = maxYear * 12 + 12 := rfl
  refine (inCalendar_numberOf_iff (isDayOf_month number hday)).trans ?_
  rw [hfirst, hlast, yearOfMonth]
  omega

theorem monthNumber_bounds (d : Date) :
    first.monthNumber ≤ d.monthNumber ∧ d.monthNumber ≤ last.monthNumber := by
  have hfirst : first.monthNumber = minYear * 12 + 1 := rfl
  have hlast : last.monthNumber = maxYear * 12 + 12 := rfl
  rcases d.existing with ⟨hyear, hmonth, -⟩
  rw [hfirst, hlast, monthNumber]
  omega

theorem dayNumber_firstOfMonth_eq (d : Date) :
    d.firstOfMonth.dayNumber = numberInMonth d.monthNumber 1 :=
  (dayNumber_eq_numberInMonth_iff (Nat.le_refl 1)).2
    ⟨rfl, (Nat.min_eq_left (monthLength_pos d.year d.month)).symm⟩

theorem dayNumber_lastOfMonth_eq (d : Date) :
    d.lastOfMonth.dayNumber = numberInMonth d.monthNumber 31 :=
  (dayNumber_eq_numberInMonth_iff (by decide)).2
    ⟨rfl, (Nat.min_eq_right (monthLength_le d.year d.month)).symm⟩

end Date

/-! ## Windows as numbers -/

/-- A day, or the days from a first to a last, by their numbers. -/
inductive Span
  | day (number : Int)
  | range (first last : Int)
  deriving DecidableEq

/-- The number of the day, or those of both ends. -/
def Span.dates : Span → List Int
  | .day n => [n]
  | .range a b => [a, b]

namespace Window

/-- The numbers of the days of a window. -/
def span : Window → Span
  | .day d => .day d.dayNumber
  | .range first last => .range first.dayNumber last.dayNumber

variable {w : Window} {a b : Int}

theorem span_eq_day_iff : w.span = .day a ↔ ∃ d, w = .day d ∧ d.dayNumber = a := by
  cases w <;> simp [span]

theorem span_eq_range_iff : w.span = .range a b ↔
    ∃ first last, w = .range first last ∧ first.dayNumber = a ∧ last.dayNumber = b := by
  cases w <;> simp [span]

/-- There is a window for numbers that the calendar has. -/
theorem exists_span_eq_iff {s : Span} :
    (∃ w : Window, w.span = s) ↔ ∀ n ∈ s.dates, Date.InCalendar n := by
  cases s with
  | day n =>
      simp only [span_eq_day_iff, Span.dates, List.forall_mem_singleton,
        Date.InCalendar, ← Date.exists_dayNumber_iff]
      exact ⟨fun ⟨_, d, _, hd⟩ => ⟨d, hd⟩, fun ⟨d, hd⟩ => ⟨_, d, rfl, hd⟩⟩
  | range n m =>
      simp only [span_eq_range_iff, Span.dates, List.forall_mem_cons, List.not_mem_nil,
        false_implies, implies_true, and_true, Date.InCalendar, ← Date.exists_dayNumber_iff]
      -- Neither end of a range asks for the other, so a range may end before it begins.
      exact ⟨fun ⟨_, d, e, _, hd, he⟩ => ⟨⟨d, hd⟩, ⟨e, he⟩⟩,
        fun ⟨⟨d, hd⟩, ⟨e, he⟩⟩ => ⟨_, d, e, rfl, hd, he⟩⟩

end Window

/-! ## Single steps -/

/-- The step finds the day with the number, and fails if the calendar has no such day. -/
def Finds (x : Except QueryError Date) (number : Int) : Prop :=
  ∀ d, x = .ok d ↔ d.dayNumber = number

theorem finds_ok (d : Date) : Finds (.ok d) d.dayNumber := fun _ =>
  ⟨fun h => Except.ok.inj h ▸ rfl, fun h => congrArg _ (Date.dayNumber_injective h).symm⟩

theorem finds_shift (d : Date) (count : Int) : Finds (d.shift count) (d.dayNumber + count) :=
  fun _ => Date.shift_eq_ok.trans Date.addDays?_eq_some_iff

theorem finds_shift_of_eq {d : Date} {count number : Int} (h : number = d.dayNumber + count) :
    Finds (d.shift count) number :=
  h ▸ finds_shift d count

theorem finds_shiftMonths (d : Date) (count : Int) :
    Finds (d.shiftMonths count) (Date.numberInMonth (d.monthNumber + count) d.day) := fun _ => by
  rw [Date.shiftMonths_eq_ok, Date.addMonths?_eq_some_iff,
    Date.dayNumber_eq_numberInMonth_iff d.existing.2.2.1]

theorem finds_ofYear {year : Int} {month day : Nat} (h : Date.IsDayOf year month day) :
    Finds (Date.ofYear year month day) (Date.numberOf year month day) := fun _ => by
  rw [Date.ofYear_eq_ok, Date.dayNumber_eq_numberOf_iff h]

namespace Decimal

/-- The integer that a text names, of whatever size. -/
def signed? (cs : List Char) : Option Int :=
  (readNat? (takeSign cs).2).map fun n : Nat => if (takeSign cs).1 = true then -(n : Int) else n

end Decimal

namespace Date

/-- The parts of a date that a text names, whether the calendar has the date or not. -/
def parts? (cs : List Char) : Option (Int × Nat × Nat) := do
  let (year, rest) ← takeYear? cs
  let (month, rest) ← takePart? (fun _ => false) rest
  let (day, rest) ← takePart? (fun _ => false) rest
  if rest.isEmpty then some (year, month, day) else none

/-- The number of the day with these parts, if they name a day of a month. -/
def numberOf? (year : Int) (month day : Nat) : Option Int :=
  if IsDayOf year month day then some (numberOf year month day) else none

/-- The number of the day that a text names. -/
def named? (cs : List Char) : Option Int :=
  (parts? cs).bind fun (year, month, day) => numberOf? year month day

theorem ofCivil?_eq_some_iff_numberOf? {year : Int} {month day : Nat} {d : Date} :
    ofCivil? year month day = some d ↔ numberOf? year month day = some d.dayNumber := by
  rw [ofCivil?_eq_some_iff, numberOf?]
  by_cases h : IsDayOf year month day
  · rw [if_pos h, Option.some.injEq, ← dayNumber_eq_numberOf_iff h, eq_comm]
  · -- A date has a month of the year and a day of the month.
    rw [if_neg h]
    refine iff_of_false ?_ nofun
    rintro ⟨rfl, rfl, rfl⟩
    exact h (isDayOf_parts d)

theorem read?_eq_bind_parts? (cs : List Char) :
    read? cs = (parts? cs).bind fun (year, month, day) => ofCivil? year month day := by
  simp only [read?, readWith?, parts?, Option.bind_eq_bind, Option.bind_assoc]
  refine Option.bind_congr fun year _ => Option.bind_congr fun month _ =>
    Option.bind_congr fun day _ => ?_
  -- No layout lets anything stand before a part, so nothing is skipped.
  have hnone : day.2.dropWhile (fun _ => false) = day.2 := by
    cases day.2 <;> rfl
  rw [hnone]
  split <;> rfl

theorem read?_eq_some_iff {cs : List Char} {d : Date} :
    read? cs = some d ↔ named? cs = some d.dayNumber := by
  rw [read?_eq_bind_parts?, named?, Option.bind_eq_some_iff, Option.bind_eq_some_iff]
  exact exists_congr fun _ => and_congr_right fun _ => ofCivil?_eq_some_iff_numberOf?

theorem ofTerm_eq_ok_iff {term : String} {d : Date} :
    ofTerm term = .ok d ↔ named? (Text.trim term).toList = some d.dayNumber := by
  rw [← read?_eq_some_iff]
  unfold ofTerm
  split <;> simp_all

end Date

namespace Window

variable {w : Window} {x y : Except QueryError Date} {a b : Int}

theorem map_day_eq_ok_iff (hx : Finds x a) : day <$> x = .ok w ↔ w.span = .day a := by
  refine map_eq_ok_iff.trans ?_
  rw [span_eq_day_iff]
  exact exists_congr fun d => by rw [hx d, and_comm, eq_comm]

/-- A date is read from a term, if it names one that the calendar has. -/
theorem map_ofTerm_eq_ok_iff {term : String} : day <$> Date.ofTerm term = .ok w ↔
    (Date.named? (Text.trim term).toList).map Span.day = some w.span := by
  constructor
  · intro h
    rcases map_eq_ok_iff.1 h with ⟨d, hd, rfl⟩
    rw [Date.ofTerm_eq_ok_iff.1 hd]
    rfl
  · intro h
    rcases Option.map_eq_some_iff.1 h with ⟨n, hn, hspan⟩
    -- A named day is the only one with its number.
    rcases span_eq_day_iff.1 hspan.symm with ⟨d, rfl, rfl⟩
    exact map_eq_ok_iff.2 ⟨d, Date.ofTerm_eq_ok_iff.2 hn, rfl⟩

/-- The ends of a range are found one after another, whatever the other one is. -/
theorem bind_range_eq_ok_iff (hx : Finds x a) (hy : Finds y b) :
    (x >>= fun first => y >>= fun last => .ok (range first last)) = .ok w ↔
      w.span = .range a b := by
  rw [span_eq_range_iff, bind_eq_ok_iff]
  refine exists_congr fun first => ?_
  rw [bind_eq_ok_iff, hx first, ← exists_and_left]
  refine exists_congr fun last => ?_
  rw [hy last, Except.ok.injEq, eq_comm (b := w)]
  exact ⟨fun ⟨hfirst, hlast, hw⟩ => ⟨hw, hfirst, hlast⟩, fun ⟨hw, hfirst, hlast⟩ =>
    ⟨hfirst, hlast, hw⟩⟩

theorem ofYear_eq_ok_iff {year : Int} : ofYear year = .ok w ↔
    w.span = .range (Date.numberOf year 1 1) (Date.numberOf year 12 31) :=
  bind_range_eq_ok_iff (finds_ofYear (Date.isDayOf_newYear year))
    (finds_ofYear (Date.isDayOf_yearEnd year))

/-- Every year of the calendar is found. -/
theorem exists_ofYear_iff {year : Int} :
    (∃ w, ofYear year = .ok w) ↔ Date.minYear ≤ year ∧ year ≤ Date.maxYear := by
  simp only [ofYear_eq_ok_iff, exists_span_eq_iff, Span.dates, List.forall_mem_cons,
    List.not_mem_nil, false_implies, implies_true, and_true,
    Date.inCalendar_numberOf_iff (Date.isDayOf_newYear year),
    Date.inCalendar_numberOf_iff (Date.isDayOf_yearEnd year), and_self]

/-! ## Months -/

/-- The first and the last day of the month with a number. -/
def ofMonthNumber (number : Int) : Span :=
  .range (Date.numberInMonth number 1) (Date.numberInMonth number 31)

theorem span_month (d : Date) :
    (range d.firstOfMonth d.lastOfMonth).span = ofMonthNumber d.monthNumber := by
  rw [span, d.dayNumber_firstOfMonth_eq, d.dayNumber_lastOfMonth_eq, ofMonthNumber]

theorem span_eq_ofMonthNumber_iff {d : Date} :
    w.span = ofMonthNumber d.monthNumber ↔ w = range d.firstOfMonth d.lastOfMonth := by
  refine ⟨fun h => ?_, fun h => h ▸ span_month d⟩
  rcases span_eq_range_iff.1 h with ⟨first, last, rfl, hfirst, hlast⟩
  rw [← d.dayNumber_firstOfMonth_eq] at hfirst
  rw [← d.dayNumber_lastOfMonth_eq] at hlast
  rw [Date.dayNumber_injective hfirst, Date.dayNumber_injective hlast]

/-- The last day is looked for behind the first day of the next month, and so the last month of the
calendar is not found. -/
theorem ofMonth_eq_ok_iff {d : Date} : ofMonth d = .ok w ↔
    w.span = ofMonthNumber d.monthNumber ∧ d.monthNumber ≠ Date.last.monthNumber := by
  have hnext := finds_shiftMonths d.firstOfMonth 1
  rw [span_eq_ofMonthNumber_iff]
  constructor
  · intro h
    rcases bind_eq_ok_iff.1 h with ⟨next, hmoved, -⟩
    refine ⟨ofMonth_eq_ok h, fun hlast => ?_⟩
    -- Behind the last month there is no month for the first day of the next one to be in.
    have hmonth := (Date.addMonths?_eq_some_iff.1 (Date.shiftMonths_eq_ok.1 hmoved)).1
    have hbounds := next.monthNumber_bounds
    have hsame : d.firstOfMonth.monthNumber = d.monthNumber := rfl
    omega
  · rintro ⟨rfl, hnot⟩
    have hbounds := d.monthNumber_bounds
    -- There is a next month, and the day before its first one is the last of this month.
    have hin : Date.InCalendar (Date.numberInMonth (d.firstOfMonth.monthNumber + 1) 1) := by
      have hsame : d.firstOfMonth.monthNumber = d.monthNumber := rfl
      rw [Date.inCalendar_numberInMonth_iff (Nat.le_refl 1)]
      omega
    rcases Date.exists_dayNumber_iff.2 hin with ⟨next, hnumber⟩
    have hmoved := (hnext next).2 hnumber
    have hback := Date.dayNumber_nextMonth (Date.shiftMonths_eq_ok.1 hmoved)
    have hlast : next.shift (-1) = .ok d.lastOfMonth := by
      rw [finds_shift next (-1), hback]
      omega
    exact bind_eq_ok_iff.2 ⟨next, hmoved, bind_eq_ok_iff.2 ⟨_, hlast, rfl⟩⟩

/-- The month of a day that was moved by months. -/
theorem bind_ofMonth_eq_ok_iff {d : Date} {months : Int} :
    (d.shiftMonths months >>= ofMonth) = .ok w ↔
      w.span = ofMonthNumber (d.monthNumber + months) ∧
        d.monthNumber + months ≠ Date.last.monthNumber := by
  constructor
  · intro h
    rcases ofMonth_shiftMonths h with ⟨moved, hmoved, hw⟩
    rw [← hmoved]
    exact ofMonth_eq_ok_iff.1 hw
  · rintro ⟨hspan, hnot⟩
    -- The first day of the range is in the month, and so the moved day is in the calendar.
    rcases span_eq_range_iff.1 hspan with ⟨first, last, -, hfirst, -⟩
    have hmonth := ((Date.dayNumber_eq_numberInMonth_iff (Nat.le_refl 1)).1 hfirst).1
    have hin : Date.InCalendar (Date.numberInMonth (d.monthNumber + months) d.day) := by
      rw [Date.inCalendar_numberInMonth_iff d.existing.2.2.1, ← hmonth]
      exact first.monthNumber_bounds
    rcases Date.exists_dayNumber_iff.2 hin with ⟨moved, hnumber⟩
    have hmoved := ((Date.dayNumber_eq_numberInMonth_iff d.existing.2.2.1).1 hnumber).1
    refine bind_eq_ok_iff.2 ⟨moved, (finds_shiftMonths d months moved).2 hnumber, ?_⟩
    rw [ofMonth_eq_ok_iff, hmoved]
    exact ⟨hspan, hnot⟩

end Window

namespace Modifier

/-! ## What modifiers mean -/

/-- The count of days that a term names, whether a word holds it or not. -/
def count? (term : String) : Option Int :=
  Decimal.signed? (Text.trim term).toList

/-- What a modifier means on a calendar without ends, where the term is one that it takes. -/
def span? (modifier : Modifier) (today : Date) (term : String) : Option Span :=
  let day := today.dayNumber
  let month := today.monthNumber
  let place := today.weekday + 1
  match modifier with
  | .today => some (.day day)
  | .tomorrow => some (.day (day + 1))
  | .yesterday => some (.day (day - 1))
  | .oneWeekAgo => some (.day (day - 7))
  | .oneWeekFromNow => some (.day (day + 7))
  | .oneMonthAgo => some (.day (Date.numberInMonth (month - 1) today.day))
  | .oneMonthFromNow => some (.day (Date.numberInMonth (month + 1) today.day))
  | .numberOfDaysAgo => (count? term).map fun n => .day (day - n)
  | .numberOfDaysFromNow => (count? term).map fun n => .day (day + n)
  | .exactDate => (Date.named? (Text.trim term).toList).map .day
  | .thePastWeek => some (.range (day - place - 6) (day - place))
  | .thisWeek => some (.range (day - place + 1) (day - place + 7))
  | .theNextWeek => some (.range (day - place + 7) (day - place + 14))
  | .thePastMonth => some (Window.ofMonthNumber (month - 1))
  | .thisMonth => some (Window.ofMonthNumber month)
  | .theNextMonth => some (Window.ofMonthNumber (month + 1))
  | .thePastYear => some (.range (Date.numberOf (today.year - 1) 1 1)
      (Date.numberOf (today.year - 1) 12 31))
  | .thisYear => some (.range (Date.numberOf today.year 1 1) (Date.numberOf today.year 12 31))
  | .theNextYear => some (.range (Date.numberOf (today.year + 1) 1 1)
      (Date.numberOf (today.year + 1) 12 31))
  | .theNextNumbersOfDays => (count? term).map fun n => .range day (day + n)
  | .thePastNumbersOfDays => (count? term).map fun n => .range (day - n) day

/-- The number of the month whose days a modifier means, if it means those of a month. -/
def monthMeant? (modifier : Modifier) (today : Date) : Option Int :=
  match modifier with
  | .thePastMonth => some (today.monthNumber - 1)
  | .thisMonth => some today.monthNumber
  | .theNextMonth => some (today.monthNumber + 1)
  | _ => none

variable {modifier : Modifier} {today : Date} {term : String} {w : Window}

theorem dayCount_eq_ok_iff {n : Int} :
    dayCount term = .ok n ↔ count? term = some n ∧ Word.fitsSigned n = true := by
  have hcount : dayCount term = .ok n ↔
      Decimal.readInt64? (Text.trim term).toList = some n := by
    unfold dayCount
    split <;> simp_all only [Except.ok.injEq, Option.some.injEq, reduceCtorEq]
  -- Whether a word holds the count is asked of the integer that was read.
  have hread : Decimal.readInt64? (Text.trim term).toList = (count? term).filter Word.fitsSigned :=
    Decimal.readInt64?_eq _
  rw [hcount, hread, Option.filter_eq_some_iff]

/-- A count that no word holds would lead out of the calendar. -/
theorem bind_dayCount_eq_ok_iff {f : Int → Except QueryError Window} {s : Int → Span}
    (hf : ∀ n, f n = .ok w ↔ w.span = s n)
    (hfits : ∀ n, w.span = s n → Word.fitsSigned n = true) :
    (dayCount term >>= f) = .ok w ↔ (count? term).map s = some w.span := by
  rw [bind_eq_ok_iff, Option.map_eq_some_iff]
  refine exists_congr fun n => ?_
  rw [dayCount_eq_ok_iff, hf, and_assoc]
  exact and_congr_right fun _ => ⟨fun h => h.2.symm, fun h => ⟨hfits n h.symm, h.symm⟩⟩

theorem fitsSigned_of_dayNumber_sub {d : Date} {n : Int}
    (h : d.dayNumber = today.dayNumber - n) : Word.fitsSigned n = true := by
  have hback : today.dayNumber = d.dayNumber + n := by omega
  exact Date.fitsSigned_of_dayNumber hback

/-- A modifier that means no month finds a window if and only if the calendar has its days. -/
theorem window_eq_ok_iff_of_no_month (h : modifier.monthMeant? today = none) :
    modifier.window today term = .ok w ↔ modifier.span? today term = some w.span := by
  have hspan : ∀ s : Span, w.span = s ↔ some s = some w.span := fun s => by
    rw [Option.some.injEq, eq_comm]
  cases modifier with
  -- One step, and only `today` is already a date.
  | today => exact (Window.map_day_eq_ok_iff (finds_ok today)).trans (hspan _)
  | tomorrow | yesterday | oneWeekAgo | oneWeekFromNow =>
      exact (Window.map_day_eq_ok_iff (finds_shift today _)).trans (hspan _)
  | oneMonthAgo | oneMonthFromNow =>
      exact (Window.map_day_eq_ok_iff (finds_shiftMonths today _)).trans (hspan _)
  -- The count is read first. One that fits no word leads out of the calendar, so to refuse it loses
  -- no window.
  | numberOfDaysAgo =>
      have hstep : ∀ n, Window.day <$> today.shift (-n) = .ok w ↔
          w.span = .day (today.dayNumber - n) :=
        fun n => Window.map_day_eq_ok_iff (finds_shift today (-n))
      refine (bind_dayCount_eq_ok_iff hstep fun n hn => ?_).trans Iff.rfl
      rcases Window.span_eq_day_iff.1 hn with ⟨d, -, hd⟩
      exact fitsSigned_of_dayNumber_sub hd
  | numberOfDaysFromNow =>
      have hstep : ∀ n, Window.day <$> today.shift n = .ok w ↔
          w.span = .day (today.dayNumber + n) :=
        fun n => Window.map_day_eq_ok_iff (finds_shift today n)
      refine (bind_dayCount_eq_ok_iff hstep fun n hn => ?_).trans Iff.rfl
      rcases Window.span_eq_day_iff.1 hn with ⟨d, -, hd⟩
      exact Date.fitsSigned_of_dayNumber hd
  -- A term without a count names its day itself.
  | exactDate => exact Window.map_ofTerm_eq_ok_iff
  -- Two steps from today, each to a place in its week.
  | thePastWeek | thisWeek | theNextWeek =>
      refine (Window.bind_range_eq_ok_iff (finds_shift_of_eq ?_) (finds_shift_of_eq ?_)).trans
        (hspan _)
      all_goals omega
  | thePastYear | thisYear | theNextYear => exact Window.ofYear_eq_ok_iff.trans (hspan _)
  | theNextNumbersOfDays =>
      -- Only the last day of the range is moved; the first is a step that stays where it is.
      have hbind : theNextNumbersOfDays.window today term = (dayCount term >>= fun n =>
          (.ok today : Except QueryError Date) >>= fun first => today.shift n >>= fun last =>
            .ok (.range first last)) := by
        dsimp only [window]
        cases dayCount term <;> rfl
      have hstep : ∀ n, ((.ok today : Except QueryError Date) >>= fun first =>
          today.shift n >>= fun last => .ok (.range first last)) = .ok w ↔
            w.span = .range today.dayNumber (today.dayNumber + n) :=
        fun n => Window.bind_range_eq_ok_iff (finds_ok today) (finds_shift today n)
      rw [hbind]
      refine (bind_dayCount_eq_ok_iff hstep fun n hn => ?_).trans Iff.rfl
      rcases Window.span_eq_range_iff.1 hn with ⟨_, d, -, -, hd⟩
      exact Date.fitsSigned_of_dayNumber hd
  | thePastNumbersOfDays =>
      have hstep : ∀ n, (today.shift (-n) >>= fun first =>
          (.ok today : Except QueryError Date) >>= fun last => .ok (.range first last)) = .ok w ↔
            w.span = .range (today.dayNumber - n) today.dayNumber :=
        fun n => Window.bind_range_eq_ok_iff (finds_shift today (-n)) (finds_ok today)
      refine (bind_dayCount_eq_ok_iff hstep fun n hn => ?_).trans Iff.rfl
      rcases Window.span_eq_range_iff.1 hn with ⟨d, _, -, hd, -⟩
      exact fitsSigned_of_dayNumber_sub hd
  -- The months are those that the hypothesis excludes.
  | thePastMonth | thisMonth | theNextMonth => exact nomatch h

/-- A modifier finds a window if and only if it means one that the calendar has, and does not mean
the days of its last month. -/
theorem window_eq_ok_iff : modifier.window today term = .ok w ↔
    modifier.span? today term = some w.span ∧
      modifier.monthMeant? today ≠ some Date.last.monthNumber := by
  have hmonth : ∀ k : Int, w.span = Window.ofMonthNumber k ∧ k ≠ Date.last.monthNumber ↔
      some (Window.ofMonthNumber k) = some w.span ∧ some k ≠ some Date.last.monthNumber :=
    fun k => by rw [Option.some.injEq, Ne, Ne, Option.some.injEq, eq_comm]
  -- The month that is meant decides between plain steps and the way through the next month.
  cases hmeant : modifier.monthMeant? today with
  -- No month is meant, and so it is not the last one.
  | none =>
      rw [window_eq_ok_iff_of_no_month hmeant]
      exact (and_iff_left nofun).symm
  | some k =>
      cases modifier with
      | thePastMonth | theNextMonth =>
          cases hmeant
          exact Window.bind_ofMonth_eq_ok_iff.trans (hmonth _)
      | thisMonth =>
          cases hmeant
          exact Window.ofMonth_eq_ok_iff.trans (hmonth _)
      | _ => exact nomatch hmeant

/-- Where the term is one that the modifier takes, the modifier fails to resolve if and only if the
calendar does not have one of the days that it means, or it means the days of the last month of the
calendar; and what it resolves to are the days that it means. So every year of the calendar is found
from its days, and every month but the last one. -/
theorem window_fails_iff {modifier : Modifier} {today : Date} {term : String} {s : Span}
    (h : modifier.span? today term = some s) :
    ((∃ e, modifier.window today term = .error e) ↔
      (∃ n ∈ s.dates, ¬Date.InCalendar n) ∨
        modifier.monthMeant? today = some Date.last.monthNumber) ∧
    (∀ w, modifier.window today term = .ok w → w.span = s) ∧
    (∃ w, thisYear.window today term = .ok w) ∧
    ((∃ w, thisMonth.window today term = .ok w) ↔
      ¬(today.year = Date.maxYear ∧ today.month = 12)) := by
  refine ⟨?fails, ?means, ?year, ?month⟩
  case fails =>
    -- A window is found once the calendar has the days, and what is not found fails.
    have hfound : (∃ w, modifier.window today term = .ok w) ↔
        (∀ n ∈ s.dates, Date.InCalendar n) ∧
          modifier.monthMeant? today ≠ some Date.last.monthNumber := by
      simp only [window_eq_ok_iff, h, Option.some.injEq, exists_and_right, eq_comm (a := s),
        Window.exists_span_eq_iff]
    rw [exists_eq_error_iff, hfound, not_and_or, not_not]
    simp only [not_forall, exists_prop]
  case means =>
    intro w hw
    exact (Option.some.inj (h.symm.trans (window_eq_ok_iff.1 hw).1)).symm
  case year =>
    rcases Window.exists_ofYear_iff.2 today.existing.1 with ⟨w, hw⟩
    exact ⟨w, hw⟩
  case month =>
    -- This month is the last one for a day in December of the last year.
    have hlast : today.monthNumber = Date.last.monthNumber ↔
        today.year = Date.maxYear ∧ today.month = 12 := Date.monthNumber_eq_iff
    rw [← hlast]
    constructor
    · rintro ⟨w, hw⟩
      exact (Window.ofMonth_eq_ok_iff.1 hw).2
    · intro hnot
      exact ⟨_, Window.ofMonth_eq_ok_iff.2 ⟨Window.span_month today, hnot⟩⟩

/-- Seen from the last day of November the next month is the last one, with all its days in the
calendar. -/
theorem window_fails_iff_november :
    let today : Date := ⟨262142, 11, 30, by decide⟩
    let december : Span := .range 95745369 95745399
    theNextMonth.span? today "" = some december ∧
      (∀ n ∈ december.dates, Date.InCalendar n) ∧
      (∃ e, theNextMonth.window today "" = .error e) ∧
      ∃ w, thisMonth.window today "" = .ok w := by
  intro today december
  have hspan : theNextMonth.span? today "" = some december := by decide +kernel
  have hmeant : theNextMonth.monthMeant? today = some Date.last.monthNumber := by decide +kernel
  rcases window_fails_iff hspan with ⟨hfails, -, -, hmonth⟩
  exact ⟨hspan, by decide +kernel, hfails.mpr (.inr hmeant), hmonth.mpr (by decide)⟩

/-- A month of the calendar with all its days in it, seen from its first day, is not found. -/
theorem not_window_fails_only_outside :
    let today : Date := ⟨262142, 12, 1, by decide⟩
    let december : Span := .range 95745369 95745399
    thisMonth.span? today "" = some december ∧
      (∀ n ∈ december.dates, Date.InCalendar n) ∧
      thisMonth.window today "" = .error (.invalidDateTerm "+262142-12-01" .dateOutOfRange) := by
  intro today december
  refine ⟨?_, ?_, ?_⟩
  all_goals decide +kernel

end Modifier

end GridQuery
