import GridQuery.Proofs.Calendar.Spans
import GridQuery.Proofs.Sql.Moments

/-!
# Ranges of Days and Moments

What the formula of a clause that asks to be within a range says of a stored timestamp.

A modifier gives a range by its first and its last day. The formula cuts it at the first moment of
the last day, so what it selects are the days from the first one up to the last one, and of the last
day nothing, not even its midnight. A range of one day selects nothing. So the windows of a month or
a year lose their last day, whichever month or year it is.

The comparison with the first day and the one with the last are both by days: at least a date is on
that day or later, and less than a date is on an earlier day.

## Theorems

* `Clause.criterion_isWithin`: The formula of a clause on a range of days.
* `Clause.trueAt_isWithin`: It is true on the days from the first and before the last.
* `Clause.isWithin_iff_before_last`: The same for modifiers, and for the text of the formula.
* `Clause.not_isWithin_last`: The last day of a range is not within it.
-/

namespace GridQuery

open Sql

namespace Clause

variable {c : Clause} {column : Column} {today first last : Date}

/-- The formula of a clause on a range compares with its two ends. -/
theorem criterion_isWithin (hp : c.predicate = .isWithin)
    (hoperator : Operator.ofColumn column = .ok .date)
    (hwindow : c.window today = .ok (.range first last)) :
    c.criterion today column = .ok ⟨column.name,
      .both (.test (.compare .greaterOrEqual (.day first)))
        (.test (.compare .less (.day last)))⟩ := by
  have hfragment : c.fragment column .date today = c.dateFragment today := by
    unfold fragment
    rw [hp, if_neg (by decide)]
    rfl
  rw [criterion, hoperator]
  simp only [bind, Except.bind, hfragment, dateFragment, hwindow, hp]

theorem trueAt_isWithin {t : Timestamp} (ht : t.WithinDay) (name : String) (first last : Date) :
    Criterion.trueAt (some t) ⟨name, .both (.test (.compare .greaterOrEqual (.day first)))
      (.test (.compare .less (.day last)))⟩ = true ↔ first ≤ t.date ∧ t.date < last := by
  have hfirst := Timestamp.key_lt_midnight_iff ht first
  have hlast := Timestamp.key_lt_midnight_iff ht last
  simp only [Criterion.trueAt, Criterion.holds, Fragment.holds, trueAt_compare_day,
    Relation.orders, Bool.and_eq_true, decide_eq_true_eq, Date.le_iff_dayNumber,
    Date.lt_iff_dayNumber]
  omega

theorem window_of_modifier {modifier : Modifier} (h : c.modifier? = some modifier.name) :
    c.window today = modifier.window today c.termText := by
  have hread : Modifier.read modifier.name = .ok modifier := by
    rw [Modifier.read, Modifier.ofName?_name]
  rw [window, h]
  simp only [hread, bind, Except.bind]

/-- Where a modifier means a range of days, the clause that asks to be within it has a formula. Its
text can be read, and whatever it is read as is true of a timestamp where the formula is: if and
only if the day of the timestamp is one from the first day on and before the last. Of a month that
is every day but its last, and of a year every day but the last of December. -/
theorem isWithin_iff_before_last {modifier : Modifier} (hp : c.predicate = .isWithin)
    (hoperator : Operator.ofColumn column = .ok .date)
    (hmodifier : c.modifier? = some modifier.name)
    (hwindow : modifier.window today c.termText = .ok (.range first last)) {t : Timestamp}
    (ht : t.WithinDay) :
    ∃ k, c.criterion today column = .ok k ∧
      (isPlainName column.name = true → (∃ f, ReadsAs k.render f) ∧
        ∀ f, ReadsAs k.render f → f.eval (Sql.Atom.trueAt (some t)) = k.trueAt (some t)) ∧
      (k.trueAt (some t) = true ↔ first ≤ t.date ∧ t.date < last) ∧
      (modifier = .thisMonth → (k.trueAt (some t) = true ↔
        t.date.year = today.year ∧ t.date.month = today.month ∧ t.date ≠ today.lastOfMonth)) ∧
      (modifier = .thePastYear → (k.trueAt (some t) = true ↔
        t.date.year = today.year - 1 ∧ ¬(t.date.month = 12 ∧ t.date.day = 31))) := by
  have hcriterion := criterion_isWithin hp hoperator ((window_of_modifier hmodifier).trans hwindow)
  -- The text asks for a moment before the last day, and so the last day is left out.
  have htrue := trueAt_isWithin ht column.name first last
  refine ⟨_, hcriterion, ?_, htrue, ?_, ?_⟩
  · intro hname
    rcases readsAs_of_criterion Sql.Atom.trueAt hname hcriterion with ⟨hexists, hall⟩
    exact ⟨hexists, fun f hf => hall f hf (some t)⟩
  · rintro rfl
    -- A month ends with its last day, and here that is the one left out.
    have hrange := Window.ofMonth_eq_ok hwindow
    rw [Window.range.injEq] at hrange
    rw [htrue, Date.lt_iff_le_and_ne, ← and_assoc, hrange.1, hrange.2, Date.mem_month_iff,
      and_assoc]
  · rintro rfl
    -- A year ends with the last of December.
    rcases Window.ofYear_eq_ok hwindow with ⟨first', last', heq, hfirst, hlast⟩
    rw [Window.range.injEq] at heq
    rw [← heq.1] at hfirst
    rw [← heq.2] at hlast
    rw [htrue, Date.lt_iff_le_and_ne, ← and_assoc, Date.mem_year_iff hfirst hlast]
    refine and_congr_right fun hyear => not_congr ?_
    rw [Date.eq_iff_parts, hlast.1, hlast.2.1, hlast.2.2]
    exact and_iff_right hyear

/-- The month is short, and the value is from the last second of the last day that is within it. The
text can be read, and is true of it. -/
theorem isWithin_iff_before_last_february :
    let column : Column := ⟨"d1", "Due", .ctime, none⟩
    let today : Date := ⟨2024, 2, 10, by decide⟩
    let c : Clause := (byKey "d1" .isWithin .null).withModifier "this_month"
    let t : Timestamp := ⟨⟨2024, 2, 28, by decide⟩, 86399, 999999999⟩
    c.predicate = .isWithin ∧ Operator.ofColumn column = .ok .date ∧
      c.modifier? = some (Modifier.name .thisMonth) ∧
      Modifier.window .thisMonth today c.termText =
        .ok (.range ⟨2024, 2, 1, by decide⟩ ⟨2024, 2, 29, by decide⟩) ∧ t.WithinDay ∧
      isPlainName column.name = true ∧
      ∃ k f, c.criterion today column = .ok k ∧ ReadsAs k.render f ∧
        f.eval (Sql.Atom.trueAt (some t)) = true := by
  intro column today c t
  have hoperator : Operator.ofColumn column = .ok .date := rfl
  have hmodifier : c.modifier? = some (Modifier.name .thisMonth) := by decide
  have hwindow : Modifier.window .thisMonth today c.termText =
      .ok (.range ⟨2024, 2, 1, by decide⟩ ⟨2024, 2, 29, by decide⟩) := by decide +kernel
  have ht : t.WithinDay := by decide
  rcases isWithin_iff_before_last rfl hoperator hmodifier hwindow ht with
    ⟨k, hk, hread, -, hmonth, -⟩
  have hname : isPlainName column.name = true := by decide
  rcases hread hname with ⟨⟨f, hf⟩, hall⟩
  exact ⟨rfl, hoperator, hmodifier, hwindow, ht, hname, k, f, hk, hf,
    (hall f hf).trans ((hmonth rfl).mpr ⟨rfl, rfl, by decide⟩)⟩

/-- On the last day of the month a value is in the range of the month, but not within it. -/
theorem not_isWithin_last :
    let column : Column := ⟨"d1", "Due", .date, none⟩
    let today : Date := ⟨2021, 12, 6, by decide⟩
    let first : Date := ⟨2021, 12, 1, by decide⟩
    let last : Date := ⟨2021, 12, 31, by decide⟩
    let c : Clause := (byKey "d1" .isWithin .null).withModifier "this_month"
    let t : Timestamp := ⟨last, 36000, 0⟩
    isPlainName column.name = true ∧
      Modifier.window .thisMonth today "" = .ok (.range first last) ∧ t.WithinDay ∧
      first.dayNumber ≤ t.date.dayNumber ∧ t.date.dayNumber ≤ last.dayNumber ∧
      c.Answers today column .isWithin (some t) false := by
  intro column today first last c t
  exact ⟨by decide, by decide +kernel, by decide, by decide +kernel, by decide +kernel,
    answers_of_answer (by decide +kernel)⟩

end Clause

end GridQuery
