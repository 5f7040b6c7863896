import GridQuery.Proofs.Calendar.DayNumber
import GridQuery.Proofs.Sql.Restriction

/-!
# Clauses that Have a Formula

Which clauses have a formula on a column, and what the others are told.

A clause is looked at in three steps, and the first that fails decides the error: the kind of the
column has an operator, the operator may be asked the predicate, and the term is what the operator
needs for it. A predicate that asks whether there is a value at all is done with after the second.
Texts take every term. The other terms are judged by what they are in JSON and, for dates, by what
the calendar has, with no reference to how a formula is made.

A date can fail in more ways than the others. The days may not be resolved at all; they may be a
range where a day is needed, or a day where a range is; and a day may be the last or the first of
the calendar, so that the neighbour it is compared with is missing.

## Main definitions

* `ColumnKind.unasked`, `Predicate.presence`, `Operator.expectation`: The kinds without an operator,
  the predicates without a term, and what is expected of a term.
* `Json.IsNumeral`, `Json.IsTruth`, `Json.IsOptions`: Terms of numbers, truth values and options.
* `Clause.Means`, `Predicate.Takes`: The days that a clause means, and those that a predicate takes.
* `Clause.Fits`: The term of a clause is what the operator needs.
* `Clause.Unresolved`, `Clause.DateFault`: What is wrong with a clause on a date.

## Theorems

* `Clause.operatorFragment_eq_error_iff`: A term that does not fit is told what was expected.
* `Modifier.failsOnly_window`: What a modifier cannot resolve is a term of a date.
* `Clause.window_eq_ok_iff`, `Clause.window_eq_error_iff`: How the days of a clause are resolved.
* `Clause.exists_dateFragment_iff`, `Clause.dateFragment_eq_error_iff`: The clauses on a date.
* `Clause.exists_fragment_iff`, `Clause.fragment_eq_error_iff`: The predicate, and then the term.
* `Clause.criterion_domain`: The clauses with a formula, and the errors of all others.
-/

namespace GridQuery

/-! ## What is needed -/

/-- The kinds of columns that cannot be asked anything. -/
def ColumnKind.unasked : List ColumnKind := [.default, .longText, .image, .file, .button]

/-- The predicates that ask whether there is a value, and need no term. -/
def Predicate.presence : List Predicate := [.isEmpty, .isNotEmpty]

/-- What an operator expects of a term that it does not take for a text or a date. -/
def Operator.expectation : Operator → Expectation
  | .number => .number
  | .checkbox => .truthValue
  | _ => .options

/-- A number, or a text that names a finite one. -/
def Json.IsNumeral : Json → Prop
  | .number _ => True
  | .string s => ∃ x, Binary64.read? (Text.trim s).toList = some x ∧ x.isFinite = true
  | _ => False

/-- A truth value, or the name of one in any case. -/
def Json.IsTruth : Json → Prop
  | .bool _ => True
  | .string s => Text.sameIgnoringCase s "true" = true ∨ Text.sameIgnoringCase s "false" = true
  | _ => False

/-- Everything but nothing and the empty list. -/
def Json.IsOptions (term : Json) : Prop :=
  term ≠ .null ∧ term ≠ .array []

/-- The calendar has the day so many days later. -/
def Date.Moves (d : Date) (days : Int) : Prop :=
  ∃ moved : Date, moved.dayNumber = d.dayNumber + days

/-- The days that a predicate takes: to be within them they have to be a range, and otherwise a day
that has those neighbours with which values are compared. -/
def Predicate.Takes : Predicate → Window → Prop
  | .isWithin, w => ∃ first last, w = .range first last
  | .is, w => ∃ d, w = .day d ∧ d.Moves 1
  | .isNot, w => ∃ d, w = .day d ∧ d.Moves 1 ∧ d.Moves (-1)
  | _, w => ∃ d, w = .day d

namespace Clause

/-- The days that a clause means: what the modifier of this name resolves to, or, if no modifier is
given, the date that the term is. -/
def Means (c : Clause) (today : Date) (w : Window) : Prop :=
  match c.modifier? with
  | some name => ∃ modifier : Modifier, modifier.name = name ∧
      modifier.window today c.termText = .ok w
  | none => ∃ d, Date.read? (Text.trim c.termText).toList = some d ∧ w = .day d

/-- The term of a clause, with its modifier, is what the operator needs for the predicate. -/
def Fits (c : Clause) (today : Date) : Operator → Prop
  | .text => True
  | .number => c.term.IsNumeral
  | .checkbox => c.term.IsTruth
  | .multipleSelect => c.term.IsOptions
  | .singleSelect | .creator => c.predicate = .is ∨ c.predicate = .isNot ∨ c.term.IsOptions
  | .date => ∃ w, c.Means today w ∧ c.predicate.Takes w

/-- Why the days of a clause are not resolved: the text that is complained about, and the problem
with it. -/
inductive Unresolved (c : Clause) (today : Date) : String → DateProblem → Prop
  | unknown {name : String} (hgiven : c.modifier? = some name)
      (hname : ∀ modifier : Modifier, modifier.name ≠ name) :
      Unresolved c today name .unknownModifier
  | failed {modifier : Modifier} {text : String} {problem : DateProblem}
      (hgiven : c.modifier? = some modifier.name)
      (hwindow : modifier.window today c.termText = .error (.invalidDateTerm text problem)) :
      Unresolved c today text problem
  | undated (hgiven : c.modifier? = none)
      (hread : Date.read? (Text.trim c.termText).toList = none) :
      Unresolved c today c.termText .noModifierOrDate

/-- What is wrong with a clause on a date. Days that do not suit the predicate are blamed on the
modifier, and a missing neighbour on the day and the move from it. -/
inductive DateFault (c : Clause) (today : Date) : String → DateProblem → Prop
  | unresolved {text : String} {problem : DateProblem} (h : c.Unresolved today text problem) :
      DateFault c today text problem
  | noRange {d : Date} (hmeans : c.Means today (.day d)) (hp : c.predicate = .isWithin) :
      DateFault c today (c.modifier?.getD "") .noRange
  | noSingleDate {first last : Date} (hmeans : c.Means today (.range first last))
      (hp : c.predicate ≠ .isWithin) :
      DateFault c today (c.modifier?.getD "") (.noSingleDate c.predicate)
  | noNext {d : Date} (hmeans : c.Means today (.day d))
      (hp : c.predicate = .is ∨ c.predicate = .isNot) (hnext : ¬d.Moves 1) :
      DateFault c today (d.shiftText 1) .dateOutOfRange
  | noPrevious {d : Date} (hmeans : c.Means today (.day d)) (hp : c.predicate = .isNot)
      (hnext : d.Moves 1) (hprevious : ¬d.Moves (-1)) :
      DateFault c today (d.shiftText (-1)) .dateOutOfRange

end Clause

/-! ## Columns and terms -/

/-- The kinds without an operator are those of the list. -/
theorem Operator.ofColumn_eq_error_iff {column : Column} {e : QueryError} :
    ofColumn column = .error e ↔
      column.kind ∈ ColumnKind.unasked ∧ e = .unsupportedColumnType column.kind := by
  unfold ofColumn
  cases column.kind <;>
    simp only [ColumnKind.unasked, List.mem_cons, List.not_mem_nil, reduceCtorEq, or_false,
      or_true, false_and, true_and, Except.error.injEq, eq_comm]

/-- A term has no items if it is nothing or the empty list, and only then. -/
theorem Json.termItems_eq_nil_iff {term : Json} : term.termItems = [] ↔ ¬term.IsOptions := by
  rw [IsOptions, not_and_or, not_not, not_not]
  cases term with
  | null => exact iff_of_true rfl (.inl rfl)
  | array items =>
      simp only [termItems, List.map_eq_nil_iff, reduceCtorEq, Json.array.injEq, false_or]
  | _ => simp only [termItems, reduceCtorEq, List.cons_ne_nil, or_false]

namespace Clause

variable {c : Clause} {kind : ColumnKind} {today : Date} {column : Column} {operator : Operator}
  {e : QueryError}

theorem numeral_eq_error_iff :
    c.numeral kind = .error e ↔ ¬c.term.IsNumeral ∧ e = c.unfit kind .number := by
  unfold numeral
  cases c.term with
  | string s =>
      rw [ite_eq_error_iff, Option.any_eq_true, Json.IsNumeral]
  | number n => simp only [reduceCtorEq, Json.IsNumeral, not_true_eq_false, false_and]
  | _ => simp only [Except.error.injEq, Json.IsNumeral, not_false_eq_true, true_and, eq_comm]

theorem truth_eq_error_iff :
    c.truth kind = .error e ↔ ¬c.term.IsTruth ∧ e = c.unfit kind .truthValue := by
  unfold truth
  cases c.term with
  | string s =>
      dsimp only [Json.IsTruth]
      split
      · next htrue => exact iff_of_false nofun fun h => h.1 (.inl htrue)
      · next htrue => rw [ite_eq_error_iff, or_iff_right htrue]
  | bool b => simp only [reduceCtorEq, Json.IsTruth, not_true_eq_false, false_and]
  | _ => simp only [Except.error.injEq, Json.IsTruth, not_false_eq_true, true_and, eq_comm]

theorem options_eq_error_iff :
    c.options kind = .error e ↔ ¬c.term.IsOptions ∧ e = c.unfit kind .options := by
  unfold options
  rw [← Json.termItems_eq_nil_iff]
  cases c.term.termItems with
  | nil => simp only [Except.error.injEq, true_and, eq_comm]
  | cons first rest => simp only [reduceCtorEq, false_and]

/-- Where a predicate of single values is not asked, the options are. -/
theorem fits_choice_iff (his : c.predicate ≠ .is) (hisNot : c.predicate ≠ .isNot) :
    c.predicate = .is ∨ c.predicate = .isNot ∨ c.term.IsOptions ↔ c.term.IsOptions :=
  (or_iff_right his).trans (or_iff_right hisNot)

/-- A term that does not fit is told what was expected. -/
theorem operatorFragment_eq_error_iff (hdate : operator ≠ .date) :
    c.operatorFragment kind today operator = .error e ↔
      ¬c.Fits today operator ∧ e = c.unfit kind operator.expectation := by
  cases operator with
  | text => exact iff_of_false nofun fun h => h.1 trivial
  | number => exact bind_ok_eq_error_iff.trans numeral_eq_error_iff
  | checkbox => exact bind_ok_eq_error_iff.trans truth_eq_error_iff
  | multipleSelect => exact bind_ok_eq_error_iff.trans options_eq_error_iff
  | singleSelect =>
      -- A single value is compared as text, whatever the term is.
      dsimp only [operatorFragment, Fits]
      split
      · next his => exact iff_of_false nofun fun h => h.1 (.inl his)
      · next hisNot => exact iff_of_false nofun fun h => h.1 (.inr (.inl hisNot))
      · next his hisNot =>
          rw [fits_choice_iff his hisNot]
          exact bind_ok_eq_error_iff.trans options_eq_error_iff
  | creator =>
      dsimp only [operatorFragment, Fits]
      split
      · next his => exact iff_of_false nofun fun h => h.1 (.inl his)
      · next hisNot => exact iff_of_false nofun fun h => h.1 (.inr (.inl hisNot))
      · next hcontains =>
          rw [hcontains, or_iff_right (by decide), or_iff_right (by decide)]
          exact bind_ok_eq_error_iff.trans options_eq_error_iff
      · next his hisNot _ =>
          rw [fits_choice_iff his hisNot]
          exact bind_ok_eq_error_iff.trans options_eq_error_iff
  | date => exact absurd rfl hdate

end Clause

/-! ## Days -/

/-- The error is about a term of a date. -/
def QueryError.IsDateTerm (e : QueryError) : Prop :=
  ∃ text problem, e = .invalidDateTerm text problem

namespace Date

theorem exists_shift_iff {d : Date} {days : Int} :
    (∃ moved, d.shift days = .ok moved) ↔ d.Moves days :=
  exists_congr fun _ => shift_eq_ok.trans addDays?_eq_some_iff

theorem shift_eq_error_iff {d : Date} {days : Int} {e : QueryError} :
    d.shift days = .error e ↔
      ¬d.Moves days ∧ e = .invalidDateTerm (d.shiftText days) .dateOutOfRange := by
  rw [← exists_shift_iff]
  unfold shift
  split
  · next moved _ => exact iff_of_false nofun fun h => h.1 ⟨moved, rfl⟩
  · simp only [reduceCtorEq, exists_false, not_false_eq_true, true_and, Except.error.injEq]
    exact eq_comm

theorem failsOnly_shift (d : Date) (days : Int) :
    FailsOnly QueryError.IsDateTerm (d.shift days) :=
  fun _ h => ⟨_, _, (shift_eq_error_iff.1 h).2⟩

theorem failsOnly_shiftMonths (d : Date) (months : Int) :
    FailsOnly QueryError.IsDateTerm (d.shiftMonths months) := by
  unfold shiftMonths
  split
  · exact failsOnly_ok _
  · exact failsOnly_error ⟨_, _, rfl⟩

theorem failsOnly_ofYear (year : Int) (month day : Nat) :
    FailsOnly QueryError.IsDateTerm (ofYear year month day) := by
  unfold ofYear
  split
  · exact failsOnly_ok _
  · exact failsOnly_error ⟨_, _, rfl⟩

theorem failsOnly_ofTerm (term : String) : FailsOnly QueryError.IsDateTerm (ofTerm term) := by
  unfold ofTerm
  split
  · exact failsOnly_ok _
  · exact failsOnly_error ⟨_, _, rfl⟩

end Date

namespace Window

theorem failsOnly_between (d : Date) (first last : Int) :
    FailsOnly QueryError.IsDateTerm (between d first last) :=
  failsOnly_bind (d.failsOnly_shift first) fun _ =>
    failsOnly_bind (d.failsOnly_shift last) fun _ => failsOnly_ok _

theorem failsOnly_ofMonth (d : Date) : FailsOnly QueryError.IsDateTerm (ofMonth d) :=
  failsOnly_bind (d.firstOfMonth.failsOnly_shiftMonths 1) fun next =>
    failsOnly_bind (next.failsOnly_shift (-1)) fun _ => failsOnly_ok _

theorem failsOnly_ofYear (year : Int) : FailsOnly QueryError.IsDateTerm (ofYear year) :=
  failsOnly_bind (Date.failsOnly_ofYear year 1 1) fun _ =>
    failsOnly_bind (Date.failsOnly_ofYear year 12 31) fun _ => failsOnly_ok _

end Window

namespace Modifier

theorem failsOnly_dayCount (term : String) :
    FailsOnly QueryError.IsDateTerm (dayCount term) := by
  unfold dayCount
  split
  · exact failsOnly_ok _
  · exact failsOnly_error ⟨_, _, rfl⟩

/-- Whatever a modifier cannot resolve is told as a term of a date. -/
theorem failsOnly_window (modifier : Modifier) (today : Date) (term : String) :
    FailsOnly QueryError.IsDateTerm (modifier.window today term) := by
  have hshift := today.failsOnly_shift
  have hmonths := today.failsOnly_shiftMonths
  have hcount := failsOnly_dayCount term
  -- All errors come from the moves, the count and the date that is read.
  cases modifier with
  | today => exact failsOnly_ok _
  | tomorrow | yesterday | oneWeekAgo | oneWeekFromNow => exact failsOnly_map (hshift _)
  | oneMonthAgo | oneMonthFromNow => exact failsOnly_map (hmonths _)
  | numberOfDaysAgo | numberOfDaysFromNow =>
      exact failsOnly_bind hcount fun _ => failsOnly_map (hshift _)
  | exactDate => exact failsOnly_map (Date.failsOnly_ofTerm term)
  | thePastWeek | thisWeek | theNextWeek => exact Window.failsOnly_between today _ _
  | thePastMonth | theNextMonth =>
      exact failsOnly_bind (hmonths _) fun d => Window.failsOnly_ofMonth d
  | thisMonth => exact Window.failsOnly_ofMonth today
  | thePastYear | thisYear | theNextYear => exact Window.failsOnly_ofYear _
  | theNextNumbersOfDays => exact failsOnly_map (failsOnly_bind hcount hshift)
  | thePastNumbersOfDays =>
      exact failsOnly_bind hcount fun _ => failsOnly_bind (hshift _) fun _ => failsOnly_ok _

theorem read_eq_ok_iff {text : String} {modifier : Modifier} :
    read text = .ok modifier ↔ modifier.name = text := by
  constructor
  · intro h
    unfold read at h
    split at h
    · next found hfound =>
        cases h
        exact beq_iff_eq.1
          (List.find?_some (p := fun modifier : Modifier => modifier.name == text) hfound)
    · exact nomatch h
  · rintro rfl
    rw [read, ofName?_name]

theorem read_eq_error_iff {text : String} {e : QueryError} :
    read text = .error e ↔
      (∀ modifier : Modifier, modifier.name ≠ text) ∧
        e = .invalidDateTerm text .unknownModifier := by
  simp only [ne_eq, ← read_eq_ok_iff]
  unfold read
  cases ofName? text with
  | none => simp only [reduceCtorEq, not_false_eq_true, implies_true, true_and,
      Except.error.injEq, eq_comm]
  | some modifier => simp only [reduceCtorEq, Except.ok.injEq, forall_eq', false_and]

end Modifier

theorem Predicate.takes_range_iff {p : Predicate} {first last : Date} :
    p.Takes (.range first last) ↔ p = .isWithin := by
  cases p <;> simp [Takes]

namespace Clause

variable {c : Clause} {today : Date} {column : Column} {operator : Operator} {e : QueryError}

theorem window_of_some {name : String} (h : c.modifier? = some name) :
    c.window today = Modifier.read name >>= fun modifier => modifier.window today c.termText := by
  simp only [window, h]

theorem window_of_none (h : c.modifier? = none) :
    c.window today = (Date.read? (Text.trim c.termText).toList).elim
      (.error (.invalidDateTerm c.termText .noModifierOrDate)) fun d => .ok (.day d) := by
  unfold window Date.ofTerm
  rw [h]
  cases Date.read? (Text.trim c.termText).toList with
  | none => rfl
  | some d => rfl

theorem window_eq_ok_iff {w : Window} : c.window today = .ok w ↔ c.Means today w := by
  unfold Means
  cases hgiven : c.modifier? with
  | some name => simp only [window_of_some hgiven, bind_eq_ok_iff, Modifier.read_eq_ok_iff]
  | none =>
      rw [window_of_none hgiven]
      cases Date.read? (Text.trim c.termText).toList with
      | none => simp only [Option.elim_none, reduceCtorEq, false_and, exists_false]
      | some d => simp only [Option.elim_some, Except.ok.injEq, Option.some.injEq,
          exists_eq_left', eq_comm]

theorem window_eq_error_iff :
    c.window today = .error e ↔
      ∃ text problem, c.Unresolved today text problem ∧ e = .invalidDateTerm text problem := by
  constructor
  · intro h
    cases hgiven : c.modifier? with
    | some name =>
        rw [window_of_some hgiven] at h
        rcases bind_eq_error_iff.1 h with hread | ⟨modifier, hread, hwindow⟩
        · rcases Modifier.read_eq_error_iff.1 hread with ⟨hname, rfl⟩
          exact ⟨_, _, .unknown hgiven hname, rfl⟩
        · -- The resolver has errors of its own, and all of them are about a term.
          rw [← Modifier.read_eq_ok_iff.1 hread] at hgiven
          rcases modifier.failsOnly_window today c.termText e hwindow with ⟨text, problem, rfl⟩
          exact ⟨text, problem, .failed hgiven hwindow, rfl⟩
    -- Without a modifier the term has to be a date by itself.
    | none =>
        rw [window_of_none hgiven] at h
        cases hread : Date.read? (Text.trim c.termText).toList with
        | some d =>
            rw [hread] at h
            exact absurd h (by simp only [Option.elim_some, reduceCtorEq, not_false_eq_true])
        | none =>
            rw [hread] at h
            cases h
            exact ⟨_, _, .undated hgiven hread, rfl⟩
  · rintro ⟨text, problem, hfault, rfl⟩
    -- Each fault makes its step fail, and the steps before it succeed.
    cases hfault with
    | unknown hgiven hname =>
        rw [window_of_some hgiven]
        exact bind_eq_error_iff.2 (.inl (Modifier.read_eq_error_iff.2 ⟨hname, rfl⟩))
    | failed hgiven hwindow =>
        rw [window_of_some hgiven]
        exact bind_eq_error_iff.2 (.inr ⟨_, Modifier.read_eq_ok_iff.2 rfl, hwindow⟩)
    | undated hgiven hread =>
        rw [window_of_none hgiven, hread, Option.elim_none]

theorem dateFragment_of_range {first last : Date} (h : c.window today = .ok (.range first last)) :
    c.dateFragment today =
      if c.predicate = .isWithin then
        .ok (.both (.test (.compare .greaterOrEqual (.day first)))
          (.test (.compare .less (.day last))))
      else .error (c.misfit (.noSingleDate c.predicate)) := by
  rw [dateFragment, h]
  cases c.predicate <;> rfl

theorem dateFragment_of_day {d : Date} (h : c.window today = .ok (.day d)) :
    c.dateFragment today =
      if c.predicate = .isWithin then .error (c.misfit .noRange)
      else dayFragment c.predicate d := by
  rw [dateFragment, h]
  cases c.predicate <;> rfl

/-- The formula of a day fails where a neighbour is missing, the next one being looked at first. -/
theorem dayFragment_eq_error_iff {p : Predicate} {d : Date} :
    dayFragment p d = .error e ↔
      (p = .is ∨ p = .isNot) ∧ d.shift 1 = .error e ∨
        p = .isNot ∧ d.Moves 1 ∧ d.shift (-1) = .error e := by
  cases p with
  | is => simp [dayFragment, bind_eq_error_iff]
  | isNot => simp [dayFragment, bind_eq_error_iff, Date.exists_shift_iff]
  | _ => simp [dayFragment]

theorem exists_dayFragment_iff {p : Predicate} {d : Date} (hp : p ≠ .isWithin) :
    (∃ f, dayFragment p d = .ok f) ↔ p.Takes (.day d) := by
  cases p with
  | isWithin => exact absurd rfl hp
  | is => simp [dayFragment, Predicate.Takes, bind_eq_ok_iff, Date.exists_shift_iff]
  | isNot => simp [dayFragment, Predicate.Takes, bind_eq_ok_iff, Date.exists_shift_iff]
  | _ => simp [dayFragment, Predicate.Takes]

/-- A clause on a date has a formula if its days are resolved, and the predicate takes them. -/
theorem exists_dateFragment_iff :
    (∃ f, c.dateFragment today = .ok f) ↔ ∃ w, c.Means today w ∧ c.predicate.Takes w := by
  constructor
  · rintro ⟨f, h⟩
    -- A range goes with `is_within` only, and a day with all the other predicates.
    rcases dateFragment_cases h with ⟨hp, first, last, hwindow, -⟩ | ⟨hp, d, hwindow, hday⟩
    · exact ⟨_, window_eq_ok_iff.1 hwindow, Predicate.takes_range_iff.2 hp⟩
    · exact ⟨_, window_eq_ok_iff.1 hwindow, (exists_dayFragment_iff hp).1 ⟨f, hday⟩⟩
  · rintro ⟨w, hmeans, htakes⟩
    have hwindow := window_eq_ok_iff.2 hmeans
    -- The other way about, a window of the wrong form is one that the predicate does not take.
    cases w with
    | range first last =>
        rw [dateFragment_of_range hwindow, if_pos (Predicate.takes_range_iff.1 htakes)]
        exact ⟨_, rfl⟩
    | day d =>
        have hp : c.predicate ≠ .isWithin := by
          intro hp
          rw [hp] at htakes
          rcases htakes with ⟨first, last, h⟩
          exact nomatch h
        rw [dateFragment_of_day hwindow, if_neg hp]
        exact (exists_dayFragment_iff hp).2 htakes

/-- What is wrong with a clause on a date is what it is told. -/
theorem dateFragment_eq_error_iff :
    c.dateFragment today = .error e ↔
      ∃ text problem, c.DateFault today text problem ∧ e = .invalidDateTerm text problem := by
  constructor
  · intro h
    -- The window is not found, or its form is the wrong one, or a day next to it is missing.
    rcases bind_eq_error_iff.1 h with hwindow | ⟨w, hwindow, -⟩
    · rcases window_eq_error_iff.1 hwindow with ⟨text, problem, hunresolved, rfl⟩
      exact ⟨text, problem, .unresolved hunresolved, rfl⟩
    · have hmeans := window_eq_ok_iff.1 hwindow
      cases w with
      | range first last =>
          rw [dateFragment_of_range hwindow] at h
          rcases ite_eq_error_iff.1 h with ⟨hp, rfl⟩
          exact ⟨_, _, .noSingleDate hmeans hp, rfl⟩
      | day d =>
          rw [dateFragment_of_day hwindow] at h
          split at h
          · next hp =>
              cases h
              exact ⟨_, _, .noRange hmeans hp, rfl⟩
          · -- Only the predicates that look at the next day, or at the one before, can fail on a
            -- day.
            rcases dayFragment_eq_error_iff.1 h with ⟨hp, hshift⟩ | ⟨hp, hnext, hshift⟩
            · rcases Date.shift_eq_error_iff.1 hshift with ⟨hnext, rfl⟩
              exact ⟨_, _, .noNext hmeans hp hnext, rfl⟩
            · rcases Date.shift_eq_error_iff.1 hshift with ⟨hprevious, rfl⟩
              exact ⟨_, _, .noPrevious hmeans hp hnext hprevious, rfl⟩
  · rintro ⟨text, problem, hfault, rfl⟩
    cases hfault with
    | unresolved h =>
        exact bind_eq_error_iff.2 (.inl (window_eq_error_iff.2 ⟨_, _, h, rfl⟩))
    -- Found and of the wrong form: the predicate decides.
    | noRange hmeans hp =>
        rw [dateFragment_of_day (window_eq_ok_iff.2 hmeans), if_pos hp]
        rfl
    | noSingleDate hmeans hp =>
        rw [dateFragment_of_range (window_eq_ok_iff.2 hmeans), if_neg hp]
        rfl
    | noNext hmeans hp hnext =>
        have hwithin : c.predicate ≠ .isWithin := by
          rcases hp with hp | hp <;> rw [hp] <;> decide
        rw [dateFragment_of_day (window_eq_ok_iff.2 hmeans), if_neg hwithin]
        exact dayFragment_eq_error_iff.2 (.inl ⟨hp, Date.shift_eq_error_iff.2 ⟨hnext, rfl⟩⟩)
    | noPrevious hmeans hp hnext hprevious =>
        rw [dateFragment_of_day (window_eq_ok_iff.2 hmeans), if_neg (by rw [hp]; decide)]
        exact dayFragment_eq_error_iff.2
          (.inr ⟨hp, hnext, Date.shift_eq_error_iff.2 ⟨hprevious, rfl⟩⟩)

/-! ## Clauses -/

/-- The formula of an operator is there if the term fits. -/
theorem exists_operatorFragment_iff {kind : ColumnKind} :
    (∃ f, c.operatorFragment kind today operator = .ok f) ↔ c.Fits today operator := by
  by_cases hdate : operator = .date
  · rw [hdate]
    exact exists_dateFragment_iff
  · simp only [exists_eq_ok_iff, ne_eq, operatorFragment_eq_error_iff hdate, not_and]
    constructor
    · intro h
      by_contra hfits
      exact h _ hfits rfl
    · exact fun hfits _ hnot => absurd hfits hnot

/-- That there is a value can be asked with any term. -/
theorem exists_fragment_of_presence (hp : c.predicate ∈ operator.predicates)
    (hpresence : c.predicate ∈ Predicate.presence) :
    ∃ f, c.fragment column operator today = .ok f := by
  rw [fragment, if_neg (not_not.2 hp)]
  rcases List.mem_pair.1 hpresence with h | h
  · rw [h]
    exact ⟨_, rfl⟩
  · rw [h]
    exact ⟨_, rfl⟩

theorem fragment_of_asking (hp : c.predicate ∈ operator.predicates)
    (hasks : c.predicate ∉ Predicate.presence) :
    c.fragment column operator today = c.operatorFragment column.kind today operator := by
  rw [fragment, if_neg (not_not.2 hp)]
  split
  · next h => exact absurd (List.mem_pair.2 (.inl h)) hasks
  · next h => exact absurd (List.mem_pair.2 (.inr h)) hasks
  · rfl

theorem exists_fragment_iff :
    (∃ f, c.fragment column operator today = .ok f) ↔
      c.predicate ∈ operator.predicates ∧
        (c.predicate ∈ Predicate.presence ∨ c.Fits today operator) := by
  by_cases hp : c.predicate ∈ operator.predicates
  · rw [and_iff_right hp]
    by_cases hpresence : c.predicate ∈ Predicate.presence
    · exact iff_of_true (exists_fragment_of_presence hp hpresence) (.inl hpresence)
    · rw [fragment_of_asking hp hpresence, exists_operatorFragment_iff, or_iff_right hpresence]
  · rw [fragment, if_pos hp]
    exact iff_of_false nofun fun h => hp h.1

/-- The predicate is looked at before the term. -/
theorem fragment_eq_error_iff :
    c.fragment column operator today = .error e ↔
      c.predicate ∉ operator.predicates ∧
          e = .unsupportedPredicate column.kind c.predicate operator.predicates ∨
        c.predicate ∈ operator.predicates ∧ c.predicate ∉ Predicate.presence ∧
          c.operatorFragment column.kind today operator = .error e := by
  by_cases hp : c.predicate ∈ operator.predicates
  · rw [or_iff_right fun h => h.1 hp, and_iff_right hp]
    by_cases hpresence : c.predicate ∈ Predicate.presence
    · -- Asking for presence needs no term, so nothing is left that could fail.
      have hexists : ∃ f, c.fragment column operator today = .ok f :=
        exists_fragment_of_presence hp hpresence
      rcases hexists with ⟨f, hf⟩
      rw [hf]
      exact iff_of_false nofun fun h => h.1 hpresence
    · rw [fragment_of_asking hp hpresence, and_iff_right hpresence]
  · rw [fragment, if_pos hp, Except.error.injEq, or_iff_left fun h => hp h.1, and_iff_right hp]
    exact eq_comm

theorem exists_criterion_iff :
    (∃ k, c.criterion today column = .ok k) ↔
      ∃ operator, Operator.ofColumn column = .ok operator ∧
        ∃ f, c.fragment column operator today = .ok f := by
  constructor
  · rintro ⟨k, h⟩
    rcases bind_eq_ok_iff.1 h with ⟨operator, hoperator, hrest⟩
    rcases bind_eq_ok_iff.1 hrest with ⟨f, hf, -⟩
    exact ⟨operator, hoperator, f, hf⟩
  · rintro ⟨operator, hoperator, f, hf⟩
    exact ⟨_, bind_eq_ok_iff.2 ⟨operator, hoperator, bind_eq_ok_iff.2 ⟨f, hf, rfl⟩⟩⟩

/-- A clause has a formula on a column if and only if the column has an operator, the operator may
be asked the predicate, and the term is what the operator needs, unless the predicate has no use for
one. Of all other clauses, one on a kind without an operator is told so, and one with a predicate
that the operator may not be asked is told those that it may; only then is the term looked at, and
the error names what was expected of it, or what is wrong with the date. -/
theorem criterion_domain (today : Date) (column : Column) (c : Clause) :
    ((∃ k, c.criterion today column = .ok k) ↔
      ∃ operator, Operator.ofColumn column = .ok operator ∧ c.predicate ∈ operator.predicates ∧
        (c.predicate ∈ Predicate.presence ∨ c.Fits today operator)) ∧
    ∀ e, c.criterion today column = .error e ↔
      column.kind ∈ ColumnKind.unasked ∧ e = .unsupportedColumnType column.kind ∨
      ∃ operator, Operator.ofColumn column = .ok operator ∧
        (c.predicate ∉ operator.predicates ∧
            e = .unsupportedPredicate column.kind c.predicate operator.predicates ∨
          c.predicate ∈ operator.predicates ∧ c.predicate ∉ Predicate.presence ∧
            (operator ≠ .date ∧ ¬c.Fits today operator ∧
                e = .valueCoercion column.kind c.termText operator.expectation ∨
              operator = .date ∧ ∃ text problem, c.DateFault today text problem ∧
                e = .invalidDateTerm text problem)) := by
  refine ⟨?_, fun e => ?_⟩
  · rw [exists_criterion_iff]
    exact exists_congr fun operator => and_congr_right fun _ => exists_fragment_iff
  · have hterm : ∀ operator, c.operatorFragment column.kind today operator = .error e ↔
        operator ≠ .date ∧ ¬c.Fits today operator ∧
            e = .valueCoercion column.kind c.termText operator.expectation ∨
          operator = .date ∧ ∃ text problem, c.DateFault today text problem ∧
            e = .invalidDateTerm text problem := by
      intro operator
      by_cases hdate : operator = .date
      · rw [or_iff_right fun h => h.1 hdate, and_iff_right hdate, hdate]
        exact dateFragment_eq_error_iff
      · rw [or_iff_left fun h => hdate h.1, and_iff_right hdate]
        exact operatorFragment_eq_error_iff hdate
    -- The checks fail in their order, each as its own lemma says.
    simp only [criterion, bind_eq_error_iff (x := Operator.ofColumn column),
      bind_ok_eq_error_iff, Operator.ofColumn_eq_error_iff, fragment_eq_error_iff, hterm]

/-- A date without a modifier is a day, which nothing can be within. -/
example :
    (byKey "d1" .isWithin (.string "2021-12-06")).criterion ⟨2021, 12, 6, by decide⟩
        ⟨"d1", "Due", .date, none⟩ = .error (.invalidDateTerm "" .noRange) := by
  decide

end Clause

end GridQuery
