import GridQuery.Calendar.Timestamp
import GridQuery.Proofs.Calendar.DateText
import GridQuery.Proofs.Calendar.DayNumber
import GridQuery.Proofs.Sql.Restriction

/-!
# Days and Moments

What the formulas of date clauses say of a stored timestamp.

A date in a query is text, and stands for the first moment of its day. A stored value has a time of
day. So a comparison with a date is one with a point on the line of time, and what it says of the
day of a timestamp depends on the side: less than a date is on an earlier day, and at least a date
is on that day or later, but greater than a date is on that day already, from just after midnight.

Hence "before", "is" and "on or after" go by days, and "after" and "on or before" by the moment.
Every timestamp is before a day, on it or after it, and nothing before the day is either of the
others; but on the day itself all moments but the first are also after it, and only the first is on
or before it.

The atoms get their truth from the text of their literals, so that it is what is written that is
meant. What a predicate answers is therefore asked of the text of its formula: it has to have a
reading, and every reading has to give the answer. Names stand in the text unquoted, and so this is
asked of columns with plain names; the formula itself answers alike under any name.

## Main definitions

* `Timestamp.WithinDay`, `Timestamp.midnight`: Times of a day, and its first moment.
* `Sql.Atom.trueAt`, `Criterion.trueAt`: What is true where a column of dates holds a value.
* `Clause.asking`, `Clause.answer`: A clause with another predicate, and what that says of a value.
* `Clause.Answers`: The text of the formula says so too, however it is read.

## Theorems

* `Timestamp.key_lt_midnight_iff`: A timestamp is before a midnight if its day is before the day.
* `trueAt_compare_day`: A comparison with a date is one with its midnight.
* `Clause.criterion_asking`: The formula of a clause on a single day.
* `Clause.answers_of_answer`: What a formula answers, its text does.
* `Clause.answers_of_day`: How the predicates of a day agree on a timestamp.
* `Clause.not_exactly_one_of_day`: On and after a day are not exclusive.
-/

namespace GridQuery

open Sql

namespace Timestamp

/-- The second is one of the day, and the fraction has room for a leap second and no more. -/
def WithinDay (t : Timestamp) : Prop :=
  t.second < daySeconds ∧ t.nano < 2 * secondNanos

instance (t : Timestamp) : Decidable t.WithinDay :=
  inferInstanceAs (Decidable (_ ∧ _))

/-- The first moment of a day. -/
def midnight (d : Date) : Timestamp := ⟨d, 0, 0⟩

/-- A timestamp is before the midnight of a day if and only if it is on an earlier day. -/
theorem key_lt_midnight_iff {t : Timestamp} (h : t.WithinDay) (d : Date) :
    t.key < (midnight d).key ↔ t.date.dayNumber < d.dayNumber := by
  rcases h with ⟨hsecond, hnano⟩
  simp only [key, midnight, daySeconds, secondNanos] at hsecond hnano ⊢
  omega

theorem withinDay_midnight (d : Date) : (midnight d).WithinDay :=
  ⟨Nat.zero_lt_succ _, Nat.zero_lt_succ _⟩

end Timestamp

/-- Two places on the line of time are related. -/
def Relation.orders (r : Relation) (a b : Int) : Bool :=
  match r with
  | .equal => a == b
  | .notEqual | .notSame => a != b
  | .greater => b < a
  | .greaterOrEqual => b ≤ a
  | .less => a < b
  | .lessOrEqual => a ≤ b

/-- What is asked of a column of dates is true where it holds the value, or nothing. A literal is
the midnight of the date that it names, and nothing is compared with nothing. -/
def Sql.Atom.trueAt (value : Option Timestamp) : Sql.Atom → Bool
  | .compare _ r (.literal text) =>
    match value, Date.read? text with
    | some t, some d => r.orders t.key (Timestamp.midnight d).key
    | _, _ => false
  | .null _ negated => value.isSome == negated
  | _ => false

/-- A criterion on a column of dates is true where the column holds the value, or nothing. -/
def Criterion.trueAt (value : Option Timestamp) (k : Criterion) : Bool :=
  k.holds (Sql.Atom.trueAt value)

theorem trueAt_compare_day (t : Timestamp) (column : String) (r : Relation) (d : Date) :
    (Test.atom column (.compare r (.day d))).trueAt (some t) =
      r.orders t.key (Timestamp.midnight d).key := by
  simp only [Test.atom, Operand.value, Sql.Atom.trueAt, Date.read?_text]

theorem trueAt_isNotNull (t : Timestamp) (column : String) :
    (Test.atom column .isNotNull).trueAt (some t) = true := rfl

namespace Clause

/-- The clause with another predicate. -/
def asking (c : Clause) (predicate : Predicate) : Clause := { c with predicate }

/-- What a predicate says of a value of the column, with the days that the clause means. -/
def answer (c : Clause) (today : Date) (column : Column) (predicate : Predicate)
    (value : Option Timestamp) : Except QueryError Bool :=
  ((c.asking predicate).criterion today column).map (Criterion.trueAt value)

/-- A predicate answers so of a value of the column: the clause that asks it has a formula with this
truth, and if the name of the column is plain, the text of the formula can be read, and has this
truth however it is read. -/
def Answers (c : Clause) (today : Date) (column : Column) (predicate : Predicate)
    (value : Option Timestamp) (truth : Bool) : Prop :=
  ∃ k, (c.asking predicate).criterion today column = .ok k ∧ k.trueAt value = truth ∧
    (isPlainName column.name = true → (∃ f, ReadsAs k.render f) ∧
      ∀ f, ReadsAs k.render f → f.eval (Sql.Atom.trueAt value) = truth)

/-- The predicates that a single day is compared by. -/
def dayPredicates : List Predicate :=
  [.is, .isNot, .isAfter, .isBefore, .isOnOrBefore, .isOnOrAfter]

variable {c : Clause} {column : Column} {today d : Date}

theorem answers_of_answer {p : Predicate} {value : Option Timestamp} {truth : Bool}
    (h : c.answer today column p value = .ok truth) : c.Answers today column p value truth := by
  rcases map_eq_ok_iff.1 h with ⟨k, hk, rfl⟩
  refine ⟨k, hk, rfl, fun hname => ?_⟩
  rcases readsAs_of_criterion Sql.Atom.trueAt hname hk with ⟨hexists, hall⟩
  exact ⟨hexists, fun f hf => hall f hf value⟩

/-- The days that a clause means do not depend on what is asked of them. -/
theorem window_asking (c : Clause) (p : Predicate) (today : Date) :
    (c.asking p).window today = c.window today := by
  have hterm : (c.asking p).termText = c.termText := rfl
  have hmodifier : (c.asking p).modifier? = c.modifier? := rfl
  rw [window, window, hterm, hmodifier]

theorem dateFragment_asking {p : Predicate} (hp : p ≠ .isWithin)
    (hwindow : c.window today = .ok (.day d)) :
    (c.asking p).dateFragment today = dayFragment p d := by
  rw [dateFragment, window_asking, hwindow]
  cases p <;> first | rfl | exact absurd rfl hp

/-- The formula of a clause on a single day is that of the day. -/
theorem criterion_asking {p : Predicate} (hp : p ∈ dayPredicates)
    (hoperator : Operator.ofColumn column = .ok .date) (hwindow : c.window today = .ok (.day d)) :
    (c.asking p).criterion today column =
      (dayFragment p d).map fun f => ⟨column.name, f⟩ := by
  -- None of the six asks for presence, so each one comes to the date of the window.
  have hfragment : (c.asking p).fragment column .date today = (c.asking p).dateFragment today := by
    simp only [dayPredicates, List.mem_cons, List.not_mem_nil, or_false] at hp
    rcases hp with rfl | rfl | rfl | rfl | rfl | rfl <;> rfl
  have hwithin : p ≠ .isWithin := by
    rintro rfl
    exact absurd hp (by decide)
  rw [criterion, hoperator]
  simp only [bind, Except.bind, hfragment, dateFragment_asking hwithin hwindow]
  cases dayFragment p d <;> rfl

theorem answers_of_dayFragment {p : Predicate} {f : Fragment} (hp : p ∈ dayPredicates)
    (hoperator : Operator.ofColumn column = .ok .date) (hwindow : c.window today = .ok (.day d))
    (hf : dayFragment p d = .ok f) (value : Option Timestamp) :
    c.Answers today column p value (Criterion.trueAt value ⟨column.name, f⟩) := by
  refine answers_of_answer ?_
  rw [answer, criterion_asking hp hoperator hwindow, hf]
  rfl

/-- Where a clause means a day and the calendar has the next one, "before", "is", "after", "on or
before" and "on or after" all answer, by texts that have a reading and by every reading of them.
Every timestamp is before the day, on it or after it, and one before it is neither of the others; it
is both on and after the day if and only if it is later on that day than midnight. On or before is
not after, and on or after is one of the two. -/
theorem answers_of_day {next : Date} (hoperator : Operator.ofColumn column = .ok .date)
    (hwindow : c.window today = .ok (.day d)) (hnext : d.addDays? 1 = some next) {t : Timestamp}
    (ht : t.WithinDay) :
    ∃ before on after onOrBefore onOrAfter,
      c.Answers today column .isBefore (some t) before ∧
      c.Answers today column .is (some t) on ∧
      c.Answers today column .isAfter (some t) after ∧
      c.Answers today column .isOnOrBefore (some t) onOrBefore ∧
      c.Answers today column .isOnOrAfter (some t) onOrAfter ∧
      (before = true ∨ on = true ∨ after = true) ∧
      (before = true → on = false ∧ after = false) ∧
      (on = true ∧ after = true ↔ t.date = d ∧ (Timestamp.midnight d).key < t.key) ∧
      (onOrBefore = true ↔ after = false) ∧
      (onOrAfter = true ↔ on = true ∨ after = true) := by
  have hanswer : ∀ p ∈ dayPredicates, ∀ f, dayFragment p d = .ok f →
      c.Answers today column p (some t) (Criterion.trueAt (some t) ⟨column.name, f⟩) :=
    fun p hp f hf => answers_of_dayFragment hp hoperator hwindow hf (some t)
  have hon : dayFragment .is d = .ok (.both (.test (.compare .greaterOrEqual (.day d)))
      (.test (.compare .less (.day next)))) := by
    simp only [dayFragment, Date.shift_eq_ok.mpr hnext, bind, Except.bind]
  refine ⟨_, _, _, _, _, hanswer .isBefore (by decide) _ rfl, hanswer .is (by decide) _ hon,
    hanswer .isAfter (by decide) _ rfl, hanswer .isOnOrBefore (by decide) _ rfl,
    hanswer .isOnOrAfter (by decide) _ rfl, ?_⟩
  -- Three points lie on the line of time, the two midnights and the timestamp.
  have hbefore := Timestamp.key_lt_midnight_iff ht d
  have hbefore' := Timestamp.key_lt_midnight_iff ht next
  have hstep := Timestamp.key_lt_midnight_iff (Timestamp.withinDay_midnight d) next
  have hmidnight : (Timestamp.midnight d).date.dayNumber = d.dayNumber := rfl
  rw [Date.addDays?_eq_some_iff.mp hnext] at hbefore' hstep
  have hdate : t.date = d ↔ t.date.dayNumber = d.dayNumber := Date.dayNumber_injective.eq_iff.symm
  simp only [Criterion.trueAt, Criterion.holds, Fragment.holds, trueAt_compare_day,
    trueAt_isNotNull, Predicate.relation, Relation.orders, Bool.and_true, Bool.and_eq_true,
    Bool.and_eq_false_iff, decide_eq_true_eq, decide_eq_false_iff_not, hdate]
  omega

/-- At ten o'clock of the day, which the clause names by counting days to it. The text of what it
asks can be read, and is true. -/
theorem answers_of_day_morning :
    let column : Column := ⟨"d1", "Due", .date, none⟩
    let today : Date := ⟨2021, 12, 1, by decide⟩
    let d : Date := ⟨2021, 12, 31, by decide⟩
    let c : Clause := (byKey "d1" .is (.string "30")).withModifier "number_of_days_from_now"
    let t : Timestamp := ⟨d, 36000, 0⟩
    Operator.ofColumn column = .ok .date ∧ c.window today = .ok (.day d) ∧ t.WithinDay ∧
      c.Answers today column .is (some t) true ∧ c.Answers today column .isAfter (some t) true ∧
      ∃ k f, c.criterion today column = .ok k ∧ ReadsAs k.render f ∧
        f.eval (Sql.Atom.trueAt (some t)) = true := by
  intro column today d c t
  have hwindow : c.window today = .ok (.day d) := by decide +kernel
  have ht : t.WithinDay := by decide
  have hnext : d.addDays? 1 = some ⟨2022, 1, 1, by decide⟩ := by decide +kernel
  have hoperator : Operator.ofColumn column = .ok .date := rfl
  rcases answers_of_day hoperator hwindow hnext ht with
    ⟨-, on, after, -, -, -, hon, hafter, -, -, -, -, hboth, -⟩
  -- At ten in the morning of the day the value is on it and also after it.
  rcases hboth.mpr ⟨rfl, by decide⟩ with ⟨rfl, rfl⟩
  refine ⟨hoperator, hwindow, ht, hon, hafter, ?_⟩
  rcases hon with ⟨k, hk, -, hread⟩
  rcases hread (by decide) with ⟨⟨f, hf⟩, hall⟩
  exact ⟨k, f, hk, hf, hall f hf⟩

/-- At ten o'clock of a day a value is on the day and after it, and is not on or before it. -/
theorem not_exactly_one_of_day :
    let column : Column := ⟨"d1", "Due", .date, none⟩
    let d : Date := ⟨2021, 12, 6, by decide⟩
    let c : Clause := byKey "d1" .is (.string "2021-12-06")
    let t : Timestamp := ⟨d, 36000, 0⟩
    isPlainName column.name = true ∧ t.WithinDay ∧ c.window d = .ok (.day d) ∧
      (d.addDays? 1).isSome = true ∧ (d.addDays? (-1)).isSome = true ∧
      c.Answers d column .isBefore (some t) false ∧ c.Answers d column .is (some t) true ∧
      c.Answers d column .isAfter (some t) true ∧
      c.Answers d column .isOnOrBefore (some t) false := by
  intro column d c t
  exact ⟨by decide, by decide, by decide +kernel, by decide +kernel, by decide +kernel,
    answers_of_answer (by decide +kernel), answers_of_answer (by decide +kernel),
    answers_of_answer (by decide +kernel), answers_of_answer (by decide +kernel)⟩

end Clause

end GridQuery
