import GridQuery.Proofs.Calendar.Months

/-!
# Windows of Later Days

A modifier that is resolved on two days gives the later one no earlier dates.

Resolving may fail on either day, so it is not a monotone function but one that keeps the order
where it has a result. Such functions are closed under what windows are put together with: one after
another, two of them for the ends of a range, and one for each count that a term may name. What is
left is that every single step keeps the order. Moves by days add one number to all days. Moves by
months keep the order of months, and in one month they cut all days to one length. The places in the
week are taken off: they go back by six from a Sunday to the Monday after it while the day goes on
by one, so that what is left of the day moves in steps of seven and never back.

## Main definitions

* `Window.NotAfter`: The order of windows, by day or by both ends of a range.
* `KeepsOrder`: A function that gives later days no earlier results.

## Theorems

* `keepsOrder_bind`, `keepsOrder_range`: Steps one after another, and the ends of a range.
* `Date.keepsOrder_shift`, `Date.keepsOrder_shiftMonths`: Moves by days and by months.
* `Date.keepsOrder_shift_place`: Moves to a day of the week.
* `Window.keepsOrder_between`, `Window.keepsOrder_ofMonth`, `Window.keepsOrder_ofYear`: Ranges.
* `Modifier.window_mono`: The windows of two days are of one form and in the order of the days.
-/

namespace GridQuery

namespace Window

/-- A day that is not after another, or a range neither of whose ends is after that of another. -/
inductive NotAfter : Window → Window → Prop
  | day {d e : Date} (h : d ≤ e) : NotAfter (.day d) (.day e)
  | range {first last first' last' : Date} (hfirst : first ≤ first') (hlast : last ≤ last') :
      NotAfter (.range first last) (.range first' last')

instance : LE Window := ⟨NotAfter⟩

end Window

/-- Where the function has results, later days do not have earlier ones. -/
def KeepsOrder {α : Type} [LE α] (f : Date → Except QueryError α) : Prop :=
  ∀ ⦃d e : Date⦄ ⦃a b : α⦄, d ≤ e → f d = .ok a → f e = .ok b → a ≤ b

section KeepsOrder

variable {α : Type} [LE α] {f g : Date → Except QueryError Date}

theorem keepsOrder_ok {f : Date → α} (h : ∀ d e : Date, d ≤ e → f d ≤ f e) :
    KeepsOrder fun d => .ok (f d) := by
  rintro d e _ _ hle ⟨⟩ ⟨⟩
  exact h d e hle

/-- A result that does not depend on the day. -/
theorem keepsOrder_fixed (x : Except QueryError Date) : KeepsOrder fun _ => x := by
  intro d e a b _ ha hb
  obtain rfl := Except.ok.inj (ha.symm.trans hb)
  exact Int.le_refl _

theorem keepsOrder_bind (hf : KeepsOrder f) {k : Date → Except QueryError α} (hk : KeepsOrder k) :
    KeepsOrder fun d => f d >>= k := by
  intro d e a b hle hd he
  rcases bind_eq_ok_iff.1 hd with ⟨moved, hmoved, ha⟩
  rcases bind_eq_ok_iff.1 he with ⟨moved', hmoved', hb⟩
  exact hk (hf hle hmoved hmoved') ha hb

/-- What is read first is the same on all days. -/
theorem keepsOrder_read {β : Type} (x : Except QueryError β) {k : β → Date → Except QueryError α}
    (hk : ∀ value, KeepsOrder (k value)) : KeepsOrder fun d => x >>= fun value => k value d := by
  intro d e a b hle hd he
  rcases bind_eq_ok_iff.1 hd with ⟨value, hvalue, ha⟩
  rcases bind_eq_ok_iff.1 he with ⟨value', hvalue', hb⟩
  obtain rfl := Except.ok.inj (hvalue.symm.trans hvalue')
  exact hk value hle ha hb

theorem keepsOrder_day (hf : KeepsOrder f) : KeepsOrder fun d => Window.day <$> f d := by
  intro d e a b hle hd he
  rcases map_eq_ok_iff.1 hd with ⟨moved, hmoved, rfl⟩
  rcases map_eq_ok_iff.1 he with ⟨moved', hmoved', rfl⟩
  exact .day (hf hle hmoved hmoved')

theorem keepsOrder_range (hf : KeepsOrder f) (hg : KeepsOrder g) :
    KeepsOrder fun d => f d >>= fun first => g d >>= fun last =>
      .ok (Window.range first last) := by
  intro d e a b hle hd he
  rcases bind_eq_ok_iff.1 hd with ⟨first, hfirst, hd⟩
  rcases bind_eq_ok_iff.1 he with ⟨first', hfirst', he⟩
  rcases bind_eq_ok_iff.1 hd with ⟨last, hlast, hd⟩
  rcases bind_eq_ok_iff.1 he with ⟨last', hlast', he⟩
  obtain rfl := Except.ok.inj hd
  obtain rfl := Except.ok.inj he
  exact .range (hf hle hfirst hfirst') (hg hle hlast hlast')

/-- A range that begins on the day itself. -/
theorem keepsOrder_range_self (hf : KeepsOrder f) : KeepsOrder fun d => Window.range d <$> f d := by
  intro d e a b hle hd he
  rcases map_eq_ok_iff.1 hd with ⟨last, hlast, rfl⟩
  rcases map_eq_ok_iff.1 he with ⟨last', hlast', rfl⟩
  exact .range hle (hf hle hlast hlast')

end KeepsOrder

namespace Date

theorem year_le_of_le {d e : Date} (h : d ≤ e) : d.year ≤ e.year := by
  rw [le_iff_not_lt, lt_iff_parts] at h
  omega

theorem firstOfMonth_le_firstOfMonth {d e : Date} (h : d ≤ e) :
    d.firstOfMonth ≤ e.firstOfMonth := by
  rw [le_iff_monthNumber] at h ⊢
  exact h.imp id fun h => ⟨h.1, Nat.le_refl 1⟩

theorem lastOfMonth_le_lastOfMonth {d e : Date} (h : d ≤ e) :
    d.lastOfMonth ≤ e.lastOfMonth := by
  rw [le_iff_monthNumber] at h ⊢
  rcases h with hmonth | ⟨hmonth, -⟩
  · exact .inl hmonth
  · -- Days of one month have one last day.
    rcases monthNumber_eq_iff.1 hmonth with ⟨hyear, hnumber⟩
    refine .inr ⟨hmonth, ?_⟩
    simp only [lastOfMonth, hyear, hnumber, Nat.le_refl]

/-- A move by days may depend on the day it starts from, as long as later days are moved no
further back than they are later. -/
theorem keepsOrder_shift_of_le {count : Date → Int} (h : ∀ d e : Date, d ≤ e →
    d.dayNumber + count d ≤ e.dayNumber + count e) : KeepsOrder fun d => d.shift (count d) := by
  intro d e a b hle hd he
  rw [shift_eq_ok, addDays?_eq_some_iff] at hd he
  have hcount := h d e hle
  rw [le_iff_dayNumber, hd, he]
  exact hcount

theorem keepsOrder_shift (count : Int) : KeepsOrder fun d => d.shift count :=
  keepsOrder_shift_of_le fun _ _ h => Int.add_le_add_right h count

/-- A move that takes off the place in the week. -/
theorem keepsOrder_shift_place {count : Date → Int} (sum : Int)
    (h : ∀ d : Date, count d + (d.weekday + 1) = sum) : KeepsOrder fun d => d.shift (count d) := by
  refine keepsOrder_shift_of_le fun d e hle => ?_
  have hd := h d
  have he := h e
  rw [le_iff_dayNumber] at hle
  -- The place is a remainder by seven, and what it leaves of a day number is a multiple of seven.
  rw [weekday] at hd he
  omega

theorem keepsOrder_shiftMonths (months : Int) : KeepsOrder fun d => d.shiftMonths months := by
  intro d e a b hle hd he
  rw [shiftMonths_eq_ok, addMonths?_eq_some_iff] at hd he
  rw [le_iff_monthNumber] at hle ⊢
  rcases hle with hmonth | ⟨hmonth, hday⟩
  · exact .inl (by omega)
  · -- From one month they come into one month, and the days are cut to its length.
    have hsame : a.monthNumber = b.monthNumber := by omega
    rcases monthNumber_eq_iff.1 hsame with ⟨hyear, hnumber⟩
    rw [hd.2, he.2, hyear, hnumber]
    exact .inr ⟨hsame, by omega⟩

theorem keepsOrder_ofYear {year : Date → Int} (h : ∀ d e : Date, d ≤ e → year d ≤ year e)
    (month day : Nat) : KeepsOrder fun d => ofYear (year d) month day := by
  intro d e a b hle hd he
  rw [ofYear_eq_ok] at hd he
  have hyear := h d e hle
  -- The dates have the same month and day, and so the years decide.
  rw [le_iff_not_lt, lt_iff_parts]
  omega

end Date

namespace Window

/-- The moves to the ends of a range may take off the place in the week. -/
theorem keepsOrder_between {first last : Date → Int} (a b : Int)
    (hfirst : ∀ d : Date, first d + (d.weekday + 1) = a)
    (hlast : ∀ d : Date, last d + (d.weekday + 1) = b) :
    KeepsOrder fun d => between d (first d) (last d) :=
  keepsOrder_range (Date.keepsOrder_shift_place a hfirst) (Date.keepsOrder_shift_place b hlast)

theorem keepsOrder_ofMonth : KeepsOrder ofMonth := by
  intro d e w w' hle hw hw'
  rw [ofMonth_eq_ok hw, ofMonth_eq_ok hw']
  exact .range (Date.firstOfMonth_le_firstOfMonth hle) (Date.lastOfMonth_le_lastOfMonth hle)

theorem keepsOrder_ofYear {year : Date → Int} (h : ∀ d e : Date, d ≤ e → year d ≤ year e) :
    KeepsOrder fun d => ofYear (year d) :=
  keepsOrder_range (Date.keepsOrder_ofYear h 1 1) (Date.keepsOrder_ofYear h 12 31)

end Window

namespace Modifier

/-- Where a modifier resolves with one term on two days, it means days on both or ranges on both,
and neither the day nor an end of the range is earlier on the later day. -/
theorem window_mono {modifier : Modifier} {term : String} {today later : Date}
    (h : today ≤ later) {w w' : Window} (hw : modifier.window today term = .ok w)
    (hw' : modifier.window later term = .ok w') : w ≤ w' := by
  have hself : KeepsOrder fun d : Date => .ok d := keepsOrder_ok fun _ _ hle => hle
  -- The cases follow how the window is put together, and the term is the same on both days.
  suffices hkeeps : KeepsOrder fun d => modifier.window d term from hkeeps h hw hw'
  cases modifier with
  | today => exact keepsOrder_ok fun _ _ => .day
  | tomorrow | yesterday | oneWeekAgo | oneWeekFromNow =>
      exact keepsOrder_day (Date.keepsOrder_shift _)
  | oneMonthAgo | oneMonthFromNow => exact keepsOrder_day (Date.keepsOrder_shiftMonths _)
  | numberOfDaysAgo | numberOfDaysFromNow =>
      exact keepsOrder_read _ fun _ => keepsOrder_day (Date.keepsOrder_shift _)
  | exactDate => exact keepsOrder_day (keepsOrder_fixed _)
  | thePastWeek => exact Window.keepsOrder_between (-6) 0 (fun d => by omega) fun d => by omega
  | thisWeek => exact Window.keepsOrder_between 1 7 (fun d => by omega) fun d => by omega
  | theNextWeek => exact Window.keepsOrder_between 7 14 (fun d => by omega) fun d => by omega
  | thePastMonth | theNextMonth =>
      exact keepsOrder_bind (Date.keepsOrder_shiftMonths _) Window.keepsOrder_ofMonth
  | thisMonth => exact Window.keepsOrder_ofMonth
  | thePastYear =>
      exact Window.keepsOrder_ofYear fun d e hle => Int.sub_le_sub_right (Date.year_le_of_le hle) 1
  | thisYear => exact Window.keepsOrder_ofYear fun d e hle => Date.year_le_of_le hle
  | theNextYear =>
      exact Window.keepsOrder_ofYear fun d e hle => Int.add_le_add_right (Date.year_le_of_le hle) 1
  | theNextNumbersOfDays =>
      exact keepsOrder_range_self (keepsOrder_read (dayCount term) Date.keepsOrder_shift)
  | thePastNumbersOfDays =>
      exact keepsOrder_read (dayCount term) fun count =>
        keepsOrder_range (Date.keepsOrder_shift (-count)) hself

/-- The later day is in the month after, and the day of the month is cut on the earlier one only. -/
theorem window_mono_february :
    let today : Date := ⟨2023, 1, 31, by decide⟩
    let later : Date := ⟨2023, 2, 1, by decide⟩
    let cut : Date := ⟨2023, 2, 28, by decide⟩
    today ≤ later ∧ oneMonthFromNow.window today "" = .ok (.day cut) ∧
      oneMonthFromNow.window later "" = .ok (.day ⟨2023, 3, 1, by decide⟩) ∧
      Window.day cut ≤ .day ⟨2023, 3, 1, by decide⟩ := by
  intro today later cut
  have hle : today ≤ later := by
    rw [Date.le_iff_dayNumber]
    decide
  have hw : oneMonthFromNow.window today "" = .ok (.day cut) := by decide +kernel
  have hw' : oneMonthFromNow.window later "" = .ok (.day ⟨2023, 3, 1, by decide⟩) := by
    decide +kernel
  exact ⟨hle, hw, hw', window_mono hle hw hw'⟩

end Modifier

end GridQuery
