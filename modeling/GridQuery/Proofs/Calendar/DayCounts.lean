import GridQuery.Proofs.Calendar.Months
import GridQuery.Proofs.Calendar.DateText
import GridQuery.Proofs.NumbersByText

/-!
# Counts of Days

Modifiers that take a count of days from their term, and the ends of ranges.

A count is any integer that a signed word of 64 bits holds, and a text of one that is larger is no
count. The bound decides nothing. All days of the calendar are so close to each other that a count
that leads from one to another is far below it, also when it is turned into milliseconds; so where a
word fails to hold a count or its duration, the day is not in the calendar either. What is left is
addition of integers. To go back is to go forward by the opposite, which for the smallest word is no
word, and two moves after each other are the move by the sum.

A count keeps its sign in a range as well. All other ranges have their ends in order, since they are
two moves from a day by fixed counts of which the first is less, or a whole month or year. The range
of a count begins or ends on the day itself, and with a negative count on the wrong side of it.

## Main definitions

* `Modifier.countText`: The text of a count.
* `Date.duration?`, `Date.addDuration?`, `Date.subDuration?`: Moves through a duration in words.
* `Window.Ordered`: A range that does not end before it begins.
* `Modifier.countedRanges`: The modifiers whose range has the length of a count.

## Theorems

* `Modifier.dayCount_countText`: The text of a count is read as it, if a word holds it.
* `Date.count_bounds`: Days of the calendar are close to each other.
* `Date.bind_duration?_addDuration?`, `Date.bind_duration?_subDuration?`: A duration that a word
  does not hold leads to no day.
* `Modifier.counted_eq_ok_iff`: A move by a count adds it to the day number, or its opposite.
* `Modifier.numberOfDays_exact`: Counts act on days as integers do.
* `Modifier.first_le_last_iff`: Which ranges have their ends in order.
* `Modifier.not_first_le_last`: A range that ends before it begins.
-/

namespace GridQuery

/-! ## Texts of counts -/

namespace Decimal

/-- There is no blank in the digits of an integer, so that they may be trimmed. -/
theorem trim_signedDigits (n : Int) :
    Text.trim (.ofList (signedDigits n)) = .ofList (signedDigits n) := by
  have hnone : ∀ c ∈ signedDigits n, Text.isBlank c = false := by
    intro c hc
    by_contra hblank
    -- A blank is neither a digit nor a sign.
    refine not_mem_signedDigits ?_ ?_ n hc
    · exact Bool.eq_false_iff.mpr fun hdigit => hblank (Text.isBlank_of_isDigit hdigit)
    · rintro rfl
      exact hblank rfl
  rw [Text.trim, String.toList_ofList, Text.dropAround_of_forall hnone]

end Decimal

namespace Modifier

/-- The text of a count of days. -/
def countText (count : Int) : String :=
  .ofList (Decimal.signedDigits count)

theorem dayCount_countText (n : Int) :
    dayCount (countText n) = if Word.fitsSigned n then .ok n
      else .error (.invalidDateTerm (countText n) .noDayCount) := by
  have hread : Decimal.readInt64? (Text.trim (countText n)).toList =
      if Word.fitsSigned n then some n else none := by
    rw [countText, Decimal.trim_signedDigits, String.toList_ofList,
      Decimal.readInt64?_signedDigits]
  unfold dayCount
  rw [hread]
  by_cases hfits : Word.fitsSigned n = true
  · simp only [hfits, if_true]
  · simp only [hfits, Bool.false_eq_true, if_false]

end Modifier

/-! ## Moves by counts -/

theorem Word.fitsSigned_iff {n : Int} :
    fitsSigned n = true ↔ -9223372036854775808 ≤ n ∧ n < 9223372036854775808 := by
  rw [fitsSigned, Bool.and_eq_true, decide_eq_true_eq, decide_eq_true_eq, half64]
  rfl

namespace Date

/-- All days of the calendar are close to each other. -/
theorem count_bounds {d moved : Date} {n : Int} (h : moved.dayNumber = d.dayNumber + n) :
    -191491528 ≤ n ∧ n ≤ 191491528 := by
  have hfirst : first.dayNumber = -95746129 := by decide
  have hlast : last.dayNumber = 95745399 := by decide
  have hd := exists_dayNumber_iff.mp ⟨d, rfl⟩
  have hmoved := exists_dayNumber_iff.mp ⟨moved, rfl⟩
  omega

theorem fitsSigned_of_dayNumber {d moved : Date} {n : Int}
    (h : moved.dayNumber = d.dayNumber + n) : Word.fitsSigned n = true := by
  have hbounds := count_bounds h
  rw [Word.fitsSigned_iff]
  omega

/-- The milliseconds of so many days, if a signed word of 64 bits holds them. -/
def duration? (days : Int) : Option Int :=
  (some (days * 86400000)).filter Word.fitsSigned

/-- The date that is so many milliseconds later, of which only whole days count. -/
def addDuration? (d : Date) (milliseconds : Int) : Option Date :=
  d.addDays? (milliseconds / 86400000)

/-- The date that is so many milliseconds earlier. -/
def subDuration? (d : Date) (milliseconds : Int) : Option Date :=
  d.addDays? (-(milliseconds / 86400000))

/-- Where a duration is too long for a word, neither of the two moves stays in the calendar. -/
theorem bind_duration? {d : Date} {n : Int} {move : Int → Option Date} {k : Int}
    (hmove : move (n * 86400000) = d.addDays? k) (hk : k = n ∨ k = -n) :
    (duration? n).bind move = d.addDays? k := by
  by_cases hfits : Word.fitsSigned (n * 86400000) = true
  · rw [duration?, Option.filter_some, if_pos hfits, Option.bind_some, hmove]
  · -- A day that is there would be too far away for the calendar.
    rw [duration?, Option.filter_some, if_neg hfits, Option.bind_none]
    refine (Option.eq_none_iff_forall_ne_some.mpr fun moved hmoved => hfits ?_).symm
    have hbounds := count_bounds (addDays?_eq_some_iff.mp hmoved)
    rw [Word.fitsSigned_iff]
    omega

theorem bind_duration?_addDuration? (d : Date) (n : Int) :
    (duration? n).bind d.addDuration? = d.addDays? n := by
  refine bind_duration? ?_ (.inl rfl)
  rw [addDuration?, Int.mul_ediv_cancel n (by decide)]

theorem bind_duration?_subDuration? (d : Date) (n : Int) :
    (duration? n).bind d.subDuration? = d.addDays? (-n) := by
  refine bind_duration? ?_ (.inr rfl)
  rw [subDuration?, Int.mul_ediv_cancel n (by decide)]

end Date

theorem Window.day_shift_eq_ok_iff {d : Date} {n : Int} {w : Window} :
    day <$> d.shift n = .ok w ↔ ∃ moved, w = .day moved ∧ moved.dayNumber = d.dayNumber + n := by
  refine map_eq_ok_iff.trans (exists_congr fun moved => ?_)
  rw [Date.shift_eq_ok, Date.addDays?_eq_some_iff, and_comm, eq_comm]

namespace Modifier

variable {today : Date} {n : Int} {w : Window}

/-- A move by a count, or by its opposite, is the move by what its text is read as. -/
theorem counted_eq_ok_iff (move : Int → Int) (hmove : move n = n ∨ move n = -n) :
    (dayCount (countText n) >>= fun count => .day <$> today.shift (move count)) = .ok w ↔
      ∃ d, w = .day d ∧ d.dayNumber = today.dayNumber + move n := by
  rw [dayCount_countText]
  by_cases hfits : Word.fitsSigned n = true
  · rw [if_pos hfits]
    exact Window.day_shift_eq_ok_iff
  · -- The count is not read, and there is no day for it either.
    rw [if_neg hfits]
    refine iff_of_false nofun ?_
    rintro ⟨d, -, hd⟩
    have hbounds := Date.count_bounds hd
    rw [Word.fitsSigned_iff] at hfits
    omega

theorem numberOfDaysFromNow_eq_ok_iff :
    numberOfDaysFromNow.window today (countText n) = .ok w ↔
      ∃ d, w = .day d ∧ d.dayNumber = today.dayNumber + n :=
  counted_eq_ok_iff (fun count => count) (.inl rfl)

theorem numberOfDaysAgo_eq_ok_iff :
    numberOfDaysAgo.window today (countText n) = .ok w ↔
      ∃ d, w = .day d ∧ d.dayNumber = today.dayNumber + -n :=
  counted_eq_ok_iff (fun count => -count) (.inr rfl)

theorem exists_numberOfDaysFromNow_iff :
    (∃ w, numberOfDaysFromNow.window today (countText n) = .ok w) ↔
      Date.first.dayNumber ≤ today.dayNumber + n ∧ today.dayNumber + n ≤ Date.last.dayNumber := by
  simp only [numberOfDaysFromNow_eq_ok_iff]
  rw [← Date.exists_dayNumber_iff]
  exact ⟨fun ⟨_, d, _, hd⟩ => ⟨d, hd⟩, fun ⟨d, hd⟩ => ⟨_, d, rfl, hd⟩⟩

theorem fitsSigned_of_dayCount {term : String} (h : dayCount term = .ok n) :
    Word.fitsSigned n = true := by
  unfold dayCount at h
  split at h
  · next count hread =>
      obtain rfl := Except.ok.inj h
      exact (Option.filter_eq_some_iff.mp hread).2
  · exact nomatch h

/-- A count of days is added to the number of the day, and fails to resolve if and only if the
calendar does not have the sum, as is so of every count that a word does not hold. To count back is
to count on by the opposite, and to count twice is to count by the sum. Other texts of a count do
the same, and so do moves through a duration that has to fit a word. -/
theorem numberOfDays_exact (today : Date) (n m : Int) :
    (∀ w, numberOfDaysFromNow.window today (countText n) = .ok w ↔
      ∃ d, w = .day d ∧ d.dayNumber = today.dayNumber + n) ∧
    ((∃ e, numberOfDaysFromNow.window today (countText n) = .error e) ↔
      ¬(Date.first.dayNumber ≤ today.dayNumber + n ∧
          today.dayNumber + n ≤ Date.last.dayNumber) ∨
        Word.fitsSigned n = false) ∧
    (∀ w, numberOfDaysAgo.window today (countText n) = .ok w ↔
      numberOfDaysFromNow.window today (countText (-n)) = .ok w) ∧
    ((∃ e, numberOfDaysAgo.window today (countText n) = .error e) ↔
      ∃ e, numberOfDaysFromNow.window today (countText (-n)) = .error e) ∧
    (∀ d, numberOfDaysFromNow.window today (countText n) = .ok (.day d) →
      ∀ w, numberOfDaysFromNow.window d (countText m) = .ok w ↔
        numberOfDaysFromNow.window today (countText (n + m)) = .ok w) ∧
    (∀ term, dayCount term = .ok n →
      numberOfDaysFromNow.window today term = numberOfDaysFromNow.window today (countText n) ∧
      numberOfDaysAgo.window today term = numberOfDaysAgo.window today (countText n)) ∧
    (Date.duration? n).bind today.addDuration? = today.addDays? n ∧
    (Date.duration? n).bind today.subDuration? = today.addDays? (-n) := by
  have hback : ∀ w, numberOfDaysAgo.window today (countText n) = .ok w ↔
      numberOfDaysFromNow.window today (countText (-n)) = .ok w := fun w => by
    rw [numberOfDaysAgo_eq_ok_iff, numberOfDaysFromNow_eq_ok_iff]
  refine ⟨fun w => numberOfDaysFromNow_eq_ok_iff, ?fails, hback, ?failsBack, ?twice, ?spelled,
    today.bind_duration?_addDuration? n, today.bind_duration?_subDuration? n⟩
  case fails =>
    rw [exists_eq_error_iff, exists_numberOfDaysFromNow_iff, or_iff_left_of_imp]
    -- A count that no word holds leads out of the calendar.
    intro hfits hinside
    rcases Date.exists_dayNumber_iff.mpr hinside with ⟨d, hd⟩
    exact Bool.false_ne_true (hfits.symm.trans (Date.fitsSigned_of_dayNumber hd))
  case failsBack =>
    rw [exists_eq_error_iff, exists_eq_error_iff]
    exact not_congr (exists_congr hback)
  case twice =>
    -- Both sides ask for the one day with the sum for its number.
    intro d hd w
    rcases numberOfDaysFromNow_eq_ok_iff.1 hd with ⟨_, ⟨⟩, hnumber⟩
    rw [numberOfDaysFromNow_eq_ok_iff, numberOfDaysFromNow_eq_ok_iff, hnumber, Int.add_assoc]
  case spelled =>
    intro term hterm
    have htext : dayCount term = dayCount (countText n) := by
      rw [hterm, dayCount_countText, if_pos (fitsSigned_of_dayCount hterm)]
    simp only [window, htext, and_self]

/-- The first move is over the end of the year onto a leap day, and the second over a year to the
first of March. Back by the smallest count that a word holds there is no day. -/
theorem numberOfDays_exact_leap :
    let today : Date := ⟨2023, 12, 31, by decide⟩
    let d : Date := ⟨2024, 2, 29, by decide⟩
    let later : Window := .day ⟨2025, 3, 1, by decide⟩
    numberOfDaysFromNow.window today (countText 60) = .ok (.day d) ∧
      numberOfDaysFromNow.window d (countText 366) = .ok later ∧
      numberOfDaysFromNow.window today (countText (60 + 366)) = .ok later ∧
      dayCount " +060 " = .ok 60 ∧
      numberOfDaysFromNow.window today " +060 " = .ok (.day d) ∧
      ∃ e, numberOfDaysAgo.window today (countText (-9223372036854775808)) = .error e := by
  intro today d later
  have hfirst : numberOfDaysFromNow.window today (countText 60) = .ok (.day d) := by
    decide +kernel
  have hsecond : numberOfDaysFromNow.window d (countText 366) = .ok later := by decide +kernel
  have hterm : dayCount " +060 " = .ok 60 := by decide +kernel
  rcases numberOfDays_exact today 60 366 with ⟨-, -, -, -, htwice, hspelled, -⟩
  rcases numberOfDays_exact today (-9223372036854775808) 0 with ⟨-, -, -, hback, -⟩
  rcases numberOfDays_exact today 9223372036854775808 0 with ⟨-, hfails, -⟩
  exact ⟨hfirst, hsecond, (htwice d hfirst later).mp hsecond, hterm,
    (hspelled _ hterm).1.trans hfirst, hback.mpr (hfails.mpr (.inr (by decide)))⟩

end Modifier

/-! ## The ends of ranges -/

namespace Window

/-- A range, if the window is one, does not end before it begins. -/
def Ordered (w : Window) : Prop :=
  ∀ first last, w = .range first last → first ≤ last

theorem ordered_day (d : Date) : (day d).Ordered :=
  fun _ _ h => nomatch h

theorem ordered_map_day {x : Except QueryError Date} {w : Window} (h : day <$> x = .ok w) :
    w.Ordered := by
  rcases map_eq_ok_iff.1 h with ⟨d, -, rfl⟩
  exact ordered_day d

theorem ordered_between {d : Date} {a b : Int} {w : Window} (hle : a ≤ b)
    (h : between d a b = .ok w) : w.Ordered := by
  rcases between_eq_ok_iff.1 h with ⟨first, last, rfl, hfirst, hlast⟩
  rintro _ _ ⟨⟩
  rw [Date.le_iff_dayNumber]
  omega

theorem ordered_ofMonth {d : Date} {w : Window} (h : ofMonth d = .ok w) : w.Ordered := by
  obtain rfl := ofMonth_eq_ok h
  rintro _ _ ⟨⟩
  -- The day itself lies between the ends of its month.
  have hmem : d.firstOfMonth ≤ d ∧ d ≤ d.lastOfMonth := Date.mem_month_iff.mpr ⟨rfl, rfl⟩
  exact Int.le_trans hmem.1 hmem.2

theorem ordered_ofYear {year : Int} {w : Window} (h : ofYear year = .ok w) : w.Ordered := by
  rcases ofYear_eq_ok h with ⟨first, last, rfl, hfirst, hlast⟩
  rintro _ _ ⟨⟩
  exact ((Date.mem_year_iff hfirst hlast).mpr hfirst.1).2

end Window

namespace Modifier

variable {modifier : Modifier} {today first last : Date} {term : String}

/-- The modifiers whose range is as long as the count in the term says. -/
def countedRanges : List Modifier :=
  [.theNextNumbersOfDays, .thePastNumbersOfDays]

theorem ordered_window {w : Window} (hcounted : modifier ∉ countedRanges)
    (h : modifier.window today term = .ok w) : w.Ordered := by
  cases modifier with
  | today =>
      -- A single day begins and ends with itself.
      obtain rfl := Except.ok.inj h
      exact Window.ordered_day today
  | tomorrow | yesterday | oneWeekAgo | oneWeekFromNow | oneMonthAgo | oneMonthFromNow
  | exactDate => exact Window.ordered_map_day h
  | numberOfDaysAgo | numberOfDaysFromNow =>
      rcases bind_eq_ok_iff.1 h with ⟨_, -, hday⟩
      exact Window.ordered_map_day hday
  -- Weeks, months and years are ranges of a fixed shape.
  | thePastWeek | thisWeek | theNextWeek => exact Window.ordered_between (by omega) h
  | thisMonth => exact Window.ordered_ofMonth h
  | thePastMonth | theNextMonth =>
      rcases bind_eq_ok_iff.1 h with ⟨_, -, hmonth⟩
      exact Window.ordered_ofMonth hmonth
  | thePastYear | thisYear | theNextYear => exact Window.ordered_ofYear h
  -- The ranges with a count are the ones that may be turned around.
  | theNextNumbersOfDays | thePastNumbersOfDays => exact absurd (by decide) hcounted

/-- The range of a count is as long as the count, whichever of its ends is the day. -/
theorem dayNumber_last_of_mem (hcounted : modifier ∈ countedRanges)
    (h : modifier.window today term = .ok (.range first last)) :
    ∃ n, dayCount term = .ok n ∧ last.dayNumber = first.dayNumber + n := by
  rcases List.mem_pair.1 hcounted with rfl | rfl
  · -- The last day is the one that is moved.
    rcases map_eq_ok_iff.1 h with ⟨moved, hmoved, heq⟩
    rcases bind_eq_ok_iff.1 hmoved with ⟨n, hn, hshift⟩
    obtain ⟨rfl, rfl⟩ := Window.range.inj heq
    exact ⟨n, hn, Date.addDays?_eq_some_iff.1 (Date.shift_eq_ok.1 hshift)⟩
  · -- The first day is the one that is moved, back by the count.
    rcases bind_eq_ok_iff.1 h with ⟨n, hn, hmoved⟩
    rcases bind_eq_ok_iff.1 hmoved with ⟨moved, hshift, heq⟩
    obtain ⟨rfl, rfl⟩ := Window.range.inj (Except.ok.inj heq)
    have hnumber := Date.addDays?_eq_some_iff.1 (Date.shift_eq_ok.1 hshift)
    exact ⟨n, hn, by omega⟩

/-- A range does not end before it begins, unless it is the range of a count and the count is
negative. The range of a count is as long as the count says, whatever its sign. -/
theorem first_le_last_iff (h : modifier.window today term = .ok (.range first last)) :
    (first ≤ last ↔ ¬(modifier ∈ countedRanges ∧ ∃ n, dayCount term = .ok n ∧ n < 0)) ∧
      ∀ n, modifier ∈ countedRanges → dayCount term = .ok n →
        last.dayNumber = first.dayNumber + n := by
  by_cases hcounted : modifier ∈ countedRanges
  · rcases dayNumber_last_of_mem hcounted h with ⟨n, hn, hlast⟩
    -- The term is read as one count only, so that its sign is that of the length of the range.
    have hcount : ∀ k, dayCount term = .ok k → k = n := fun k hk =>
      Except.ok.inj (hk.symm.trans hn)
    refine ⟨?_, fun k _ hk => hcount k hk ▸ hlast⟩
    rw [Date.le_iff_dayNumber]
    constructor
    · rintro hle ⟨-, k, hk, hnegative⟩
      have heq := hcount k hk
      omega
    · intro hnot
      by_contra hgt
      exact hnot ⟨hcounted, n, hn, by omega⟩
  · exact ⟨iff_of_true (ordered_window hcounted h _ _ rfl) fun hneg => hcounted hneg.1,
      fun _ hmem => absurd hmem hcounted⟩

/-- The count is negative, and takes the end of the range over the end of a leap February. -/
theorem first_le_last_iff_negative :
    let today : Date := ⟨2024, 3, 1, by decide⟩
    let last : Date := ⟨2024, 2, 29, by decide⟩
    theNextNumbersOfDays.window today "-1" = .ok (.range today last) ∧ ¬today ≤ last ∧
      last.dayNumber = today.dayNumber + -1 := by
  intro today last
  have hwindow : theNextNumbersOfDays.window today "-1" = .ok (.range today last) := by
    decide +kernel
  have hcount : dayCount "-1" = .ok (-1) := by decide +kernel
  rcases first_le_last_iff hwindow with ⟨hiff, hlength⟩
  exact ⟨hwindow, fun hle => hiff.mp hle ⟨by decide, -1, hcount, by decide⟩,
    hlength _ (by decide) hcount⟩

/-- The next three days, counted backwards, end before they begin, and so do the past three. -/
theorem not_first_le_last :
    let today : Date := ⟨2021, 12, 6, by decide⟩
    let before : Date := ⟨2021, 12, 3, by decide⟩
    let after : Date := ⟨2021, 12, 9, by decide⟩
    theNextNumbersOfDays.window today "-3" = .ok (.range today before) ∧ ¬today ≤ before ∧
      thePastNumbersOfDays.window today "-3" = .ok (.range after today) ∧ ¬after ≤ today := by
  intro today before after
  refine ⟨?_, ?_, ?_, ?_⟩
  all_goals decide +kernel

end Modifier

end GridQuery
