import GridQuery.Proofs.Sql.Ranges

/-!
# Clauses that Mean a Day

Clauses on a date whose modifier and term come down to one day.

Such a clause is nothing but its predicate and the day. What it was resolved from is not looked at
again: the formula is made of the day alone, and where it cannot be made, because a neighbour of the
day is not in the calendar, the error names the day and the move and nothing of the clause. The day
in turn is what its text names, in every year of the calendar. So the clause may as well have been
written with the text of the day for its term, under the modifier for exact dates or under none.

That a value is on the day and that it is not are both said by comparisons with midnights, but not
with the same ones. To be on the day is to be at its midnight or later, and before the next. Not to
be on it is to be at the next midnight or later, or at the midnight before or earlier: the whole day
before is left out as well, but for its first moment. Between the two midnights neither is true, and
nothing is both.

## Main definitions

* `Clause.onDate`: The clause with a date in place of its modifier and term.
* `Timestamp.IsBetween`: Strictly between the midnights of two days.

## Theorems

* `Date.ofTerm_text`: The text of a date is a term for it.
* `Clause.criterion_eq_onDate`: A clause on a resolved day is one on the date.
* `Clause.dayFragment_is`, `Clause.dayFragment_isNot`: The two formulas.
* `Clause.trueAt_is_iff`, `Clause.trueAt_isNot_iff`: The moments that they select.
* `Clause.is_isNot_apart`: They are never both true, and both not true in the day before.
-/

namespace GridQuery

open Sql

theorem Date.ofTerm_text (d : Date) : ofTerm (.ofList d.text) = .ok d := by
  have hread : read? (Text.trim (.ofList d.text)).toList = some d := by
    rw [trim_text, String.toList_ofList, read?_text]
  unfold ofTerm
  rw [hread]

/-- The timestamp is later than the midnight of the first day and earlier than that of the other. -/
def Timestamp.IsBetween (t : Timestamp) (a b : Date) : Prop :=
  (midnight a).key < t.key ∧ t.key < (midnight b).key

namespace Clause

variable {c : Clause} {column : Column} {today d : Date}

/-! ## Resolved days -/

/-- The clause with the text of a date for its term and no modifier. -/
def onDate (c : Clause) (d : Date) : Clause :=
  { c with term := .string (.ofList d.text), modifierText := none }

theorem window_onDate (c : Clause) (d today : Date) :
    (c.onDate d).window today = .ok (.day d) := by
  have hterm : (c.onDate d).termText = .ofList d.text := rfl
  have hmodifier : (c.onDate d).modifier? = none := rfl
  rw [window, hmodifier, hterm, Date.ofTerm_text]

theorem modifier?_exactDate (c : Clause) :
    (c.withModifier Modifier.exactDate.name).modifier? = some Modifier.exactDate.name := by
  have htrim : (Text.trim Modifier.exactDate.name).isEmpty = false := by decide
  simp only [modifier?, withModifier, Option.filter_some, htrim, Bool.not_false, if_true]

/-- Where a modifier and a term resolve to one day, a clause that compares with it is compiled as
the clause with the text of the day for its term, without a modifier or with that for exact dates:
to the same formula, or to the same error. Every day of the calendar is what its text names. -/
theorem criterion_eq_onDate {modifier : Modifier} (hoperator : Operator.ofColumn column = .ok .date)
    (hp : c.predicate ∈ dayPredicates) (hmodifier : c.modifier? = some modifier.name)
    (hwindow : modifier.window today c.termText = .ok (.day d)) :
    c.criterion today column = (c.onDate d).criterion today column ∧
      c.criterion today column =
        ((c.onDate d).withModifier Modifier.exactDate.name).criterion today column ∧
      ∀ e : Date, Modifier.exactDate.window today (.ofList e.text) = .ok (.day e) := by
  have hexact : ∀ e : Date, Modifier.exactDate.window today (.ofList e.text) = .ok (.day e) := by
    intro e
    rw [Modifier.window, Date.ofTerm_text]
    rfl
  -- All three clauses mean the day, and have one predicate.
  have hself := criterion_asking hp hoperator ((window_of_modifier hmodifier).trans hwindow)
  have hplain := criterion_asking hp hoperator (window_onDate c d today)
  have hgiven := criterion_asking hp hoperator
    ((window_of_modifier (modifier?_exactDate (c.onDate d))).trans (hexact d))
  exact ⟨hself.trans hplain.symm, hself.trans hgiven.symm, hexact⟩

/-- The day is in a year below zero, and so its text begins with a sign. -/
theorem criterion_eq_onDate_negative :
    let column : Column := ⟨"m1", "Changed", .mtime, none⟩
    let today : Date := ⟨0, 1, 31, by decide⟩
    let d : Date := ⟨-1, 12, 31, by decide⟩
    let c : Clause := (byKey "m1" .isNot .null).withModifier "one_month_ago"
    Operator.ofColumn column = .ok .date ∧ c.predicate ∈ dayPredicates ∧
      c.modifier? = some Modifier.oneMonthAgo.name ∧
      Modifier.oneMonthAgo.window today c.termText = .ok (.day d) ∧
      c.criterion today column = (c.onDate d).criterion today column := by
  intro column today d c
  have hoperator : Operator.ofColumn column = .ok .date := rfl
  have hp : c.predicate ∈ dayPredicates := by decide
  have hmodifier : c.modifier? = some Modifier.oneMonthAgo.name := by decide
  have hwindow : Modifier.oneMonthAgo.window today c.termText = .ok (.day d) := by decide +kernel
  exact ⟨hoperator, hp, hmodifier, hwindow,
    (criterion_eq_onDate hoperator hp hmodifier hwindow).1⟩

/-! ## On a day and not on it -/

theorem dayFragment_is {f : Fragment} (h : dayFragment .is d = .ok f) :
    ∃ next, d.addDays? 1 = some next ∧
      f = .both (.test (.compare .greaterOrEqual (.day d)))
        (.test (.compare .less (.day next))) := by
  rcases bind_eq_ok_iff.1 h with ⟨next, hnext, heq⟩
  exact ⟨next, Date.shift_eq_ok.1 hnext, (Except.ok.inj heq).symm⟩

theorem dayFragment_isNot {f : Fragment} (h : dayFragment .isNot d = .ok f) :
    ∃ next previous, d.addDays? 1 = some next ∧ d.addDays? (-1) = some previous ∧
      f = .both (.either (.test (.compare .greaterOrEqual (.day next)))
        (.test (.compare .lessOrEqual (.day previous)))) (.test .isNotNull) := by
  rcases bind_eq_ok_iff.1 h with ⟨next, hnext, hrest⟩
  rcases bind_eq_ok_iff.1 hrest with ⟨previous, hprevious, heq⟩
  exact ⟨next, previous, Date.shift_eq_ok.1 hnext, Date.shift_eq_ok.1 hprevious,
    (Except.ok.inj heq).symm⟩

theorem trueAt_nothing (name : String) (r : Relation) (d : Date) :
    (Test.atom name (.compare r (.day d))).trueAt none = false := rfl

/-- To be on a day is to be at its midnight or later, and before the next one. -/
theorem trueAt_is_iff {next : Date} (t : Timestamp) (name : String) :
    Criterion.trueAt (some t) ⟨name, .both (.test (.compare .greaterOrEqual (.day d)))
      (.test (.compare .less (.day next)))⟩ = true ↔
        (Timestamp.midnight d).key ≤ t.key ∧ t.key < (Timestamp.midnight next).key := by
  simp only [Criterion.trueAt, Criterion.holds, Fragment.holds, trueAt_compare_day,
    Relation.orders, Bool.and_eq_true, decide_eq_true_eq]

/-- Not to be on it is to be at the next midnight or later, or at the one before or earlier. -/
theorem trueAt_isNot_iff {next previous : Date} (t : Timestamp) (name : String) :
    Criterion.trueAt (some t) ⟨name, .both (.either (.test (.compare .greaterOrEqual (.day next)))
      (.test (.compare .lessOrEqual (.day previous)))) (.test .isNotNull)⟩ = true ↔
        (Timestamp.midnight next).key ≤ t.key ∨ t.key ≤ (Timestamp.midnight previous).key := by
  simp only [Criterion.trueAt, Criterion.holds, Fragment.holds, trueAt_compare_day,
    trueAt_isNotNull, Relation.orders, Bool.and_true, Bool.or_eq_true, decide_eq_true_eq]

/-- Where both formulas of a day are there, the calendar has the day before. Then, of a column that
holds a timestamp or nothing, the formulas are never both true, and neither is if and only if the
column holds nothing or the timestamp is strictly between the midnight of the day before and that of
the day. Of every other timestamp one of them is true and the other is not. The texts of both can be
read, and whatever they are read as is true where the formulas are. -/
theorem is_isNot_apart (hoperator : Operator.ofColumn column = .ok .date)
    (hwindow : c.window today = .ok (.day d)) {on off : Criterion}
    (hon : (c.asking .is).criterion today column = .ok on)
    (hoff : (c.asking .isNot).criterion today column = .ok off) :
    (isPlainName column.name = true → ∀ k ∈ [on, off], (∃ f, ReadsAs k.render f) ∧
      ∀ f, ReadsAs k.render f → ∀ value, f.eval (Sql.Atom.trueAt value) = k.trueAt value) ∧
    ∃ previous : Date, previous.dayNumber = d.dayNumber - 1 ∧
      ∀ value : Option Timestamp,
        ¬(on.trueAt value = true ∧ off.trueAt value = true) ∧
        (¬on.trueAt value = true ∧ ¬off.trueAt value = true ↔
          value = none ∨ ∃ t, value = some t ∧ t.IsBetween previous d) ∧
        ∀ t, value = some t → ¬t.IsBetween previous d →
          (on.trueAt value = true ↔ ¬off.trueAt value = true) := by
  refine ⟨fun hname => ?_, ?_⟩
  · exact List.forall_mem_cons.2 ⟨readsAs_of_criterion Sql.Atom.trueAt hname hon,
      List.forall_mem_singleton.2 (readsAs_of_criterion Sql.Atom.trueAt hname hoff)⟩
  · rw [criterion_asking (by decide) hoperator hwindow, map_eq_ok_iff] at hon hoff
    rcases hon with ⟨_, hon, rfl⟩
    rcases hoff with ⟨_, hoff, rfl⟩
    rcases dayFragment_is hon with ⟨next, hnext, rfl⟩
    rcases dayFragment_isNot hoff with ⟨next', previous, hnext', hprevious, rfl⟩
    obtain rfl : next = next' := Option.some.inj (hnext.symm.trans hnext')
    rw [Date.addDays?_eq_some_iff] at hnext hprevious
    refine ⟨previous, hprevious, fun value => ?_⟩
    cases value with
    | none => simp [Criterion.trueAt, Criterion.holds, Fragment.holds, trueAt_nothing]
    | some t =>
        -- The three midnights follow each other, and the timestamp lies on one side of each.
        have hbefore := Timestamp.key_lt_midnight_iff (Timestamp.withinDay_midnight previous) d
        have hafter := Timestamp.key_lt_midnight_iff (Timestamp.withinDay_midnight d) next
        simp only [Timestamp.midnight] at hbefore hafter
        simp only [trueAt_is_iff, trueAt_isNot_iff, Timestamp.IsBetween, Option.some.injEq,
          reduceCtorEq, false_or, exists_eq_left', forall_eq', Timestamp.midnight]
        omega

/-- At noon of the day before the first of March of a leap year neither is true, and neither is what
their texts are read as. -/
theorem is_isNot_apart_leap :
    let column : Column := ⟨"d1", "Due", .date, none⟩
    let today : Date := ⟨2024, 3, 1, by decide⟩
    let before : Date := ⟨2024, 2, 29, by decide⟩
    let after : Date := ⟨2024, 3, 2, by decide⟩
    let c : Clause := byKey "d1" .is (.string "2024-03-01")
    let on : Criterion := ⟨"Due", .both (.test (.compare .greaterOrEqual (.day today)))
      (.test (.compare .less (.day after)))⟩
    let off : Criterion := ⟨"Due", .both (.either (.test (.compare .greaterOrEqual (.day after)))
      (.test (.compare .lessOrEqual (.day before)))) (.test .isNotNull)⟩
    let t : Timestamp := ⟨before, 43200, 0⟩
    Operator.ofColumn column = .ok .date ∧ c.window today = .ok (.day today) ∧
      (c.asking .is).criterion today column = .ok on ∧
      (c.asking .isNot).criterion today column = .ok off ∧
      ¬on.trueAt (some t) = true ∧ ¬off.trueAt (some t) = true ∧
      ∀ k ∈ [on, off], ∃ f, ReadsAs k.render f ∧
        f.eval (Sql.Atom.trueAt (some t)) = k.trueAt (some t) := by
  intro column today before after c on off t
  have hoperator : Operator.ofColumn column = .ok .date := rfl
  have hwindow : c.window today = .ok (.day today) := by decide +kernel
  have hon : (c.asking .is).criterion today column = .ok on := by decide +kernel
  have hoff : (c.asking .isNot).criterion today column = .ok off := by decide +kernel
  rcases is_isNot_apart hoperator hwindow hon hoff with
    ⟨hread, previous, hprevious, hall⟩
  have hdate : previous = before := Date.dayNumber_injective (hprevious.trans (by decide))
  -- Noon of the day before is past the first moment of that day and not yet on this one.
  have hbetween : t.IsBetween previous today := by
    rw [hdate]
    exact ⟨by decide, by decide⟩
  rcases (hall (some t)).2.1.mpr (.inr ⟨t, rfl, hbetween⟩) with ⟨hnotOn, hnotOff⟩
  refine ⟨hoperator, hwindow, hon, hoff, hnotOn, hnotOff, fun k hk => ?_⟩
  rcases hread (by decide) k hk with ⟨⟨f, hf⟩, heval⟩
  exact ⟨f, hf, heval f hf (some t)⟩

end Clause

end GridQuery
