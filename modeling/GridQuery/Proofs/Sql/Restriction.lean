import GridQuery.Proofs.Outcome
import GridQuery.Proofs.Sql.Meaning
import Mathlib.Data.List.ReduceOption

/-!
# What the Condition of a Query Means

The condition of a query against the specification that it was made from. What a specification
means is said on the specification itself: its clauses are joined by its conjunction, or those of
every group by the conjunction of the group and the groups by the one over them, and what has no
meaning is left out before. A clause has none if its column is not found, and a part has none if
nothing is left of it. This says nothing about text, parentheses or the binding of connectives.

The condition is text. Read by the grammar, and whatever its atoms turn out to be, it is true where
the specification is. The names of the columns stand in it unquoted and have to be plain; terms may
be anything, since a term never becomes more than one value or one list of them.

## Main definitions

* `combine?`: The truth of parts under a conjunction, some of which may have none.
* `Clause.meaning`, `Group.meaning`, `Specification.meaning`: The intended truth.
* `Restriction.conjunctions`: The conjunctions of a condition.
* `Restriction.holds`, `Restriction.Readable`: The truth of a condition, and those that can be read.

## Theorems

* `Clause.fragment_cases`, `Clause.dateFragment_cases`: How the formula of a clause is made.
* `Clause.legible_fragment`: The formula of a clause can be read.
* `readsAs_criterion`, `Clause.readsAs_of_criterion`: The text of a clause alone means its formula.
* `renders_restriction`: The text of a condition means the condition.
* `Specification.restriction_cases`: How the condition is made.
* `Specification.meaning_of_restriction`: The condition is true where the specification is.
* `Specification.isConjunction_of_restriction`: The conjunctions of a condition are conjunctions.
* `Specification.restriction_eq_none_iff`: There is no condition only if no column is found.
* `Specification.whereText_means`: The text of the condition means the specification.
-/

namespace GridQuery

open Sql

/-- The truth of parts under a conjunction; there is none without any parts. -/
def combine? (conjunction : String) (truths : List Bool) : Option Bool :=
  if truths.isEmpty then none else some (truthUnder conjunction truths)

/-- The truth of those parts that have one, under a conjunction. -/
def combined {α : Type} (conjunction : String) (meaning : α → Except QueryError (Option Bool))
    (parts : List α) : Except QueryError (Option Bool) :=
  (parts.mapM meaning).map fun truths => combine? conjunction truths.reduceOption

/-- The truth of a clause, if its column is found. -/
def Clause.meaning (columns : List Column) (today : Date) (v : Sql.Atom → Bool) (c : Clause) :
    Except QueryError (Option Bool) :=
  match Column.find? columns c.columnKey c.columnName with
  | none => .ok none
  | some column => (c.criterion today column).map fun k => some (k.holds v)

/-- The truth of a group, if it has a clause with one. -/
def Group.meaning (columns : List Column) (today : Date) (v : Sql.Atom → Bool) (g : Group) :
    Except QueryError (Option Bool) :=
  combined g.conjunction (Clause.meaning columns today v) g.clauses

/-- The truth of a specification, if it asks for anything. -/
def Specification.meaning (s : Specification) (columns : List Column) (today : Date)
    (v : Sql.Atom → Bool) : Except QueryError (Option Bool) :=
  match s.groups with
  | none => combined s.conjunction (Clause.meaning columns today v) s.clauses
  | some groups => combined s.groupConjunction (Group.meaning columns today v) groups

/-- The clauses of a specification, in one list. -/
def Specification.asked (s : Specification) : List Clause :=
  match s.groups with
  | none => s.clauses
  | some groups => groups.flatMap Group.clauses

/-! ## How formulas are made -/

namespace Clause

/-- Options that could be read are the items of the term. -/
theorem exists_of_options {c : Clause} {kind : ColumnKind} {f : Fragment}
    {build : String × List String → Fragment}
    (h : (c.options kind >>= fun options => .ok (build options)) = .ok f) :
    ∃ first rest, c.term.termItems = first :: rest ∧ f = build (first, rest) := by
  rcases bind_eq_ok_iff.1 h with ⟨⟨first, rest⟩, hoptions, heq⟩
  cases heq
  unfold options at hoptions
  split at hoptions
  · exact absurd hoptions (by simp only [reduceCtorEq, not_false_eq_true])
  · next option options hitems =>
      cases hoptions
      exact ⟨first, rest, hitems, rfl⟩

/-- What is within a range needs a range, and what else is asked of a date needs a day. -/
theorem dateFragment_cases {c : Clause} {today : Date} {f : Fragment}
    (h : c.dateFragment today = .ok f) :
    (c.predicate = .isWithin ∧ ∃ first last, c.window today = .ok (.range first last) ∧
      f = .both (.test (.compare .greaterOrEqual (.day first)))
        (.test (.compare .less (.day last)))) ∨
    (c.predicate ≠ .isWithin ∧ ∃ d, c.window today = .ok (.day d) ∧
      dayFragment c.predicate d = .ok f) := by
  rcases bind_eq_ok_iff.1 h with ⟨w, hw, hwindow⟩
  split at hwindow
  · -- The form of the window and the predicate have to fit; both other cases are errors.
    next first last hp =>
      exact .inl ⟨hp, first, last, hw, (Except.ok.inj hwindow).symm⟩
  · exact absurd hwindow (by simp only [reduceCtorEq, not_false_eq_true])
  · next d hp =>
      exact .inr ⟨hp, d, hw, hwindow⟩
  · exact absurd hwindow (by simp only [reduceCtorEq, not_false_eq_true])

/-- How the formula of a clause is made: what asks for nothing but a value is the same for all
operators, and the others are asked the rest of what they support. -/
theorem fragment_cases {c : Clause} {column : Column} {today : Date} {operator : Operator}
    {f : Fragment} (h : c.fragment column operator today = .ok f) :
    (c.predicate = .isEmpty ∧ f = .test .isNull) ∨
      (c.predicate = .isNotEmpty ∧ f = .test .isNotNull) ∨
      (c.predicate ∈ operator.predicates.filter (fun p => p ≠ .isEmpty ∧ p ≠ .isNotEmpty) ∧
        c.operatorFragment column.kind today operator = .ok f) := by
  unfold fragment at h
  split at h
  · exact absurd h (by simp only [reduceCtorEq, not_false_eq_true])
  · next hsupported =>
      split at h
      · next hp => exact .inl ⟨hp, (Except.ok.inj h).symm⟩
      · next hp => exact .inr (.inl ⟨hp, (Except.ok.inj h).symm⟩)
      · -- The predicate is supported, and it asks for more than presence.
        next hempty hnotEmpty =>
          refine .inr (.inr ⟨List.mem_filter.2 ⟨not_not.1 hsupported, ?_⟩, h⟩)
          exact decide_eq_true ⟨hempty, hnotEmpty⟩

/-! ## Legible formulas -/

theorem isNumeral_of_numeral {c : Clause} {kind : ColumnKind} {text : String}
    (h : c.numeral kind = .ok text) : isNumeral text.toList = true := by
  unfold numeral at h
  split at h
  · next n _ =>
      cases h
      exact Number.isSome_read?_text n
  · simp only at h
    split at h
    · next hfinite =>
        cases h
        exact Binary64.isSome_read?_of_isFinite hfinite
    · exact absurd h (by simp only [reduceCtorEq, not_false_eq_true])
  · exact absurd h (by simp only [reduceCtorEq, not_false_eq_true])

theorem legible_conj (first : Fragment) (rest : List Fragment)
    (h : ∀ f ∈ first :: rest, f.Legible) : (Fragment.conj first rest).Legible := by
  induction rest generalizing first with
  | nil => exact h first List.mem_cons_self
  | cons second rest ih =>
      exact ⟨h first List.mem_cons_self, ih second fun f hf => h f (List.mem_cons_of_mem first hf)⟩

theorem legible_dayFragment {predicate : Predicate} {d : Date} {f : Fragment}
    (h : dayFragment predicate d = .ok f) : f.Legible := by
  unfold dayFragment at h
  simp only at h
  split at h
  · -- Dates are always legible; what could be wrong is that a day next to it is missing.
    rcases bind_eq_ok_iff.1 h with ⟨next, -, heq⟩
    cases heq
    exact ⟨trivial, trivial⟩
  · rcases bind_eq_ok_iff.1 h with ⟨next, -, hprevious⟩
    rcases bind_eq_ok_iff.1 hprevious with ⟨previous, -, heq⟩
    cases heq
    exact ⟨⟨trivial, trivial⟩, trivial⟩
  · cases h
    exact trivial
  · cases h
    exact ⟨trivial, trivial⟩

theorem legible_dateFragment {c : Clause} {today : Date} {f : Fragment}
    (h : c.dateFragment today = .ok f) : f.Legible := by
  rcases dateFragment_cases h with ⟨-, first, last, -, rfl⟩ | ⟨-, d, -, hday⟩
  · exact ⟨trivial, trivial⟩
  · exact legible_dayFragment hday

/-- A list of options is made of its first option and the others, and so is never empty. -/
theorem legible_of_options {c : Clause} {kind : ColumnKind} {f : Fragment}
    {build : String × List String → Fragment}
    (h : (c.options kind >>= fun options => .ok (build options)) = .ok f)
    (hbuild : ∀ options, (build options).Legible) : f.Legible := by
  rcases exists_of_options h with ⟨first, rest, -, rfl⟩
  exact hbuild (first, rest)

theorem legible_operatorFragment {c : Clause} {kind : ColumnKind} {today : Date}
    {operator : Operator} {f : Fragment} (h : c.operatorFragment kind today operator = .ok f) :
    f.Legible := by
  -- Only numerals and lists of options can fail to be legible, and each comes from one reading.
  cases operator with
  | text =>
      cases h
      simp only [Fragment.Legible]
      split <;> trivial
  | number =>
      rcases bind_eq_ok_iff.1 h with ⟨text, htext, heq⟩
      cases heq
      exact isNumeral_of_numeral htext
  | singleSelect =>
      unfold operatorFragment at h
      simp only at h
      split at h
      · cases h
        trivial
      · cases h
        trivial
      · exact legible_of_options h fun options => List.cons_ne_nil _ _
  | multipleSelect => exact legible_of_options h fun options => List.cons_ne_nil _ _
  | date => exact legible_dateFragment h
  | checkbox =>
      rcases bind_eq_ok_iff.1 h with ⟨truth, -, heq⟩
      cases heq
      trivial
  | creator =>
      unfold operatorFragment at h
      simp only at h
      split at h
      · cases h
        trivial
      · cases h
        trivial
      · exact legible_of_options h fun options => List.cons_ne_nil _ _
      · refine legible_of_options h fun options => legible_conj _ _ ?_
        intro g hg
        rcases List.mem_cons.1 hg with rfl | hrest
        · trivial
        · rcases List.mem_map.1 hrest with ⟨id, -, rfl⟩
          trivial

theorem legible_fragment {c : Clause} {column : Column} {operator : Operator} {today : Date}
    {f : Fragment} (h : c.fragment column operator today = .ok f) : f.Legible := by
  rcases fragment_cases h with ⟨-, rfl⟩ | ⟨-, rfl⟩ | ⟨-, hoperator⟩
  · trivial
  · trivial
  · exact legible_operatorFragment hoperator

theorem legible_criterion {c : Clause} {column : Column} {today : Date} {k : Criterion}
    (hname : isPlainName column.name = true) (h : c.criterion today column = .ok k) :
    k.Legible := by
  rcases bind_eq_ok_iff.1 h with ⟨operator, -, hfragment⟩
  rcases bind_eq_ok_iff.1 hfragment with ⟨f, hf, heq⟩
  cases heq
  exact ⟨hname, legible_fragment hf⟩

end Clause

/-! ## The criteria of clauses -/

theorem Column.mem_of_find? {columns : List Column} {key name : Option String} {column : Column}
    (h : Column.find? columns key name = some column) : column ∈ columns := by
  rw [Column.find?, Option.or_eq_some_iff] at h
  rcases h with h | ⟨-, h⟩
  · rcases Option.bind_eq_some_iff.1 h with ⟨text, -, hfind⟩
    exact List.mem_of_find?_eq_some hfind
  · rcases Option.bind_eq_some_iff.1 h with ⟨text, -, hfind⟩
    exact List.mem_of_find?_eq_some hfind

namespace Clause

variable {columns : List Column} {today : Date}

/-- Each criterion is that of a clause on a column that was found. -/
theorem exists_of_mem_criteria {clauses : List Clause} {ks : List Criterion} {k : Criterion}
    (h : criteria columns today clauses = .ok ks) (hk : k ∈ ks) :
    ∃ column ∈ columns, ∃ c : Clause, c.criterion today column = .ok k := by
  rcases exists_of_mem_mapM h hk with ⟨⟨column, c⟩, hlocated, hcriterion⟩
  rcases List.mem_filterMap.1 hlocated with ⟨c', -, hfound⟩
  rcases Option.map_eq_some_iff.1 hfound with ⟨column', hfind, heq⟩
  cases heq
  exact ⟨column, Column.mem_of_find? hfind, c, hcriterion⟩

theorem legible_criteria {clauses : List Clause} {ks : List Criterion}
    (hnames : ∀ column ∈ columns, isPlainName column.name = true)
    (h : criteria columns today clauses = .ok ks) : ∀ k ∈ ks, k.Legible := by
  intro k hk
  rcases exists_of_mem_criteria h hk with ⟨column, hcolumn, c, hcriterion⟩
  exact legible_criterion (hnames column hcolumn) hcriterion

theorem criteria_eq_nil_iff {clauses : List Clause} {ks : List Criterion}
    (h : criteria columns today clauses = .ok ks) : ks = [] ↔ located columns clauses = [] := by
  have hlength := (mapM_eq_ok_iff.1 h).length_eq
  rw [← List.length_eq_zero_iff, ← hlength, List.length_eq_zero_iff]

theorem meaning_of_criterion {c : Clause} {column : Column} {k : Criterion}
    (hfind : Column.find? columns c.columnKey c.columnName = some column)
    (h : c.criterion today column = .ok k) (v : Sql.Atom → Bool) :
    c.meaning columns today v = .ok (some (k.holds v)) := by
  unfold meaning
  rw [hfind]
  exact map_eq_ok_iff.2 ⟨k, h, rfl⟩

/-- The clauses with a meaning are those with a criterion. -/
theorem mapM_meaning_of_criteria {clauses : List Clause} {ks : List Criterion}
    (h : criteria columns today clauses = .ok ks) (v : Sql.Atom → Bool) :
    ∃ truths, clauses.mapM (meaning columns today v) = .ok truths ∧
      truths.reduceOption = ks.map (Criterion.holds v) := by
  simp only [criteria, mapM_eq_ok_iff] at h ⊢
  induction clauses generalizing ks with
  | nil =>
      cases h
      exact ⟨[], .nil, rfl⟩
  | cons c clauses ih =>
      rw [located, List.filterMap_cons] at h
      cases hfind : Column.find? columns c.columnKey c.columnName with
      | none =>
          rw [hfind] at h
          rcases ih h with ⟨truths, htruths, hholds⟩
          -- Neither side has anything of a clause without a column.
          refine ⟨none :: truths, .cons ?_ htruths, hholds⟩
          rw [meaning, hfind]
      | some column =>
          rw [hfind] at h
          rcases List.forall₂_cons_left_iff.1 h with ⟨k, rest, hk, hrest, rfl⟩
          rcases ih hrest with ⟨truths, htruths, hholds⟩
          refine ⟨some (k.holds v) :: truths, .cons (meaning_of_criterion hfind hk v) htruths, ?_⟩
          rw [List.reduceOption_cons_of_some, hholds, List.map_cons]

end Clause

/-! ## The criteria of groups -/

/-- The truth of joined parts, if there are any. -/
def Junction.meaning {α : Type} (truth : α → Bool) (j : Junction α) : Option Bool :=
  if j.parts.isEmpty then none else some (j.holds truth)

theorem combine?_map {α : Type} (conjunction : String) (truth : α → Bool) (parts : List α) :
    combine? conjunction (parts.map truth) = Junction.meaning truth ⟨conjunction, parts⟩ := by
  unfold combine? Junction.meaning
  rw [List.isEmpty_map]
  rfl

theorem combined_of_criteria {columns : List Column} {today : Date} {clauses : List Clause}
    {ks : List Criterion} (h : Clause.criteria columns today clauses = .ok ks)
    (conjunction : String) (v : Sql.Atom → Bool) :
    combined conjunction (Clause.meaning columns today v) clauses =
      .ok (Junction.meaning (Criterion.holds v) ⟨conjunction, ks⟩) := by
  rcases Clause.mapM_meaning_of_criteria h v with ⟨truths, htruths, hholds⟩
  refine map_eq_ok_iff.2 ⟨truths, htruths, ?_⟩
  rw [hholds, combine?_map]

namespace Group

variable {columns : List Column} {today : Date}

theorem meaning_of_criteria {g : Group} {j : Junction Criterion}
    (h : g.criteria columns today = .ok j) (v : Sql.Atom → Bool) :
    g.meaning columns today v = .ok (j.meaning (Criterion.holds v)) := by
  rcases map_eq_ok_iff.1 h with ⟨ks, hks, rfl⟩
  exact combined_of_criteria hks g.conjunction v

/-- The groups with a meaning are those with a criterion in them. -/
theorem mapM_meaning_of_criteria {groups : List Group} {js : List (Junction Criterion)}
    (h : groups.mapM (Group.criteria columns today) = .ok js) (v : Sql.Atom → Bool) :
    ∃ truths, groups.mapM (meaning columns today v) = .ok truths ∧
      truths.reduceOption =
        (js.filter fun j => !j.parts.isEmpty).map (Junction.holds (Criterion.holds v)) := by
  rw [mapM_eq_ok_iff] at h
  simp only [mapM_eq_ok_iff]
  induction h with
  | nil => exact ⟨[], .nil, rfl⟩
  | @cons g j groups js hg _ ih =>
      rcases ih with ⟨truths, htruths, hholds⟩
      refine ⟨_, .cons (meaning_of_criteria hg v) htruths, ?_⟩
      rw [Junction.meaning]
      -- A group without criteria says nothing, and the text does not have it.
      by_cases hempty : j.parts.isEmpty = true
      · rw [if_pos hempty, List.reduceOption_cons_of_none, hholds, List.filter_cons,
          if_neg (by rw [hempty]; decide)]
      · rw [if_neg hempty, List.reduceOption_cons_of_some, hholds, List.filter_cons,
          if_pos (by rw [Bool.not_eq_true] at hempty; rw [hempty]; rfl), List.map_cons]

/-- No group is left if no clause of any group has a column. -/
theorem filter_criteria_eq_nil_iff {groups : List Group} {js : List (Junction Criterion)}
    (h : groups.mapM (Group.criteria columns today) = .ok js) :
    (js.filter fun j => !j.parts.isEmpty) = [] ↔
      Clause.located columns (groups.flatMap Group.clauses) = [] := by
  rw [mapM_eq_ok_iff] at h
  unfold Clause.located
  rw [List.filterMap_flatMap, List.flatMap_eq_nil_iff]
  induction h with
  | nil => exact iff_of_true rfl fun g hg => absurd hg List.not_mem_nil
  | @cons g j groups js hg _ ih =>
      rcases map_eq_ok_iff.1 hg with ⟨ks, hks, rfl⟩
      rw [List.filter_cons, List.forall_mem_cons, ← ih]
      -- A group is dropped when none of its clauses resolves.
      have hnil := Clause.criteria_eq_nil_iff hks
      rw [Clause.located] at hnil
      rw [← hnil]
      cases ks with
      | nil => exact (and_iff_right rfl).symm
      | cons k ks => exact iff_of_false (List.cons_ne_nil _ _) fun h => List.cons_ne_nil k ks h.1

end Group

/-! ## The condition of a query -/

/-- The truth of a condition. -/
def Restriction.holds (v : Sql.Atom → Bool) : Restriction → Bool
  | .flat criteria => criteria.holds (Criterion.holds v)
  | .grouped groups => groups.holds (Junction.holds (Criterion.holds v))

/-- The conjunctions of a condition, the outer one first. -/
def Restriction.conjunctions : Restriction → List String
  | .flat criteria => [criteria.conjunction]
  | .grouped groups => groups.conjunction :: groups.parts.map Junction.conjunction

/-- Joined criteria that can be read back: there are some, and they are joined by a connective. -/
def Junction.Readable (j : Junction Criterion) : Prop :=
  Specification.isConjunction j.conjunction = true ∧ j.parts ≠ [] ∧ ∀ k ∈ j.parts, k.Legible

/-- A condition that can be read back. -/
def Restriction.Readable : Restriction → Prop
  | .flat criteria => criteria.Readable
  | .grouped groups => Specification.isConjunction groups.conjunction = true ∧
      groups.parts ≠ [] ∧ ∀ j ∈ groups.parts, j.Readable

/-- What the text of a clause means by itself is what it means among others. -/
theorem readsAs_criterion {k : Criterion} (h : k.Legible) :
    (∃ f, ReadsAs k.render f) ∧ ∀ f, ReadsAs k.render f → ∀ v, f.eval v = k.holds v :=
  readsAs_of_renders (renders_single (renders_criterion h))

/-- The text of the formula of a clause is read, and whatever it is read as is true of a value where
the formula is, however a value decides what is asked of the column. -/
theorem Clause.readsAs_of_criterion {α : Type} (decides : α → Sql.Atom → Bool) {c : Clause}
    {column : Column} {today : Date} {k : Criterion} (hname : isPlainName column.name = true)
    (h : c.criterion today column = .ok k) :
    (∃ f, ReadsAs k.render f) ∧
      ∀ f, ReadsAs k.render f → ∀ value, f.eval (decides value) = k.holds (decides value) := by
  rcases readsAs_criterion (legible_criterion hname h) with ⟨hexists, hall⟩
  exact ⟨hexists, fun f hf value => hall f hf (decides value)⟩

theorem renders_criteria {j : Junction Criterion} (h : j.Readable) :
    Renders (.row .or) (j.render Criterion.render) fun v => j.holds (Criterion.holds v) :=
  renders_junction h.1 h.2.1 fun k hk => renders_criterion (h.2.2 k hk)

theorem renders_restriction {r : Restriction} (h : r.Readable) :
    Renders (.row .or) r.render fun v => r.holds v := by
  cases r with
  | flat criteria => exact renders_criteria h
  | grouped groups =>
      refine renders_junction h.1 h.2.1 fun j hj => ?_
      exact renders_single (renders_parenthesized (renders_criteria (h.2.2 j hj)))

namespace Specification

variable {s : Specification} {columns : List Column} {today : Date}

/-- How a restriction is made: in both forms there is one if anything is left. -/
theorem restriction_cases {r : Option Restriction} (h : s.restriction columns today = .ok r) :
    (s.groups = none ∧ ∃ ks, Clause.criteria columns today s.clauses = .ok ks ∧
      r = if ks = [] then none else some (.flat ⟨s.conjunction, ks⟩)) ∨
    ∃ groups js, s.groups = some groups ∧
      groups.mapM (Group.criteria columns today) = .ok js ∧
      r = if (js.filter fun j => !j.parts.isEmpty) = [] then none
        else some (.grouped ⟨s.groupConjunction, js.filter fun j => !j.parts.isEmpty⟩) := by
  unfold restriction at h
  cases hgroups : s.groups with
  | none =>
      rw [hgroups] at h
      rcases bind_eq_ok_iff.1 h with ⟨ks, hks, heq⟩
      simp only [Except.ok.injEq, List.isEmpty_iff] at heq
      exact .inl ⟨rfl, ks, hks, heq.symm⟩
  | some groups =>
      rw [hgroups] at h
      rcases bind_eq_ok_iff.1 h with ⟨js, hjs, heq⟩
      simp only [Except.ok.injEq, List.isEmpty_iff] at heq
      exact .inr ⟨groups, js, rfl, hjs, heq.symm⟩

theorem meaning_of_restriction {r : Option Restriction}
    (h : s.restriction columns today = .ok r) (v : Sql.Atom → Bool) :
    s.meaning columns today v = .ok (r.map (Restriction.holds v)) := by
  unfold meaning
  -- The criteria mean what their clauses mean, flat or in groups.
  rcases restriction_cases h with ⟨hgroups, ks, hks, rfl⟩ | ⟨groups, js, hgroups, hjs, rfl⟩
  · simp only [hgroups, combined_of_criteria hks, Junction.meaning, List.isEmpty_iff]
    split <;> rfl
  · rcases Group.mapM_meaning_of_criteria hjs v with ⟨truths, htruths, hholds⟩
    rw [hgroups]
    refine map_eq_ok_iff.2 ⟨truths, htruths, ?_⟩
    rw [hholds, combine?_map]
    simp only [Junction.meaning, List.isEmpty_iff]
    split <;> rfl

theorem restriction_eq_none_iff {r : Option Restriction}
    (h : s.restriction columns today = .ok r) :
    r = none ↔ Clause.located columns s.asked = [] := by
  unfold asked
  rcases restriction_cases h with ⟨hgroups, ks, hks, rfl⟩ | ⟨groups, js, hgroups, hjs, rfl⟩
  · rw [hgroups, ← Clause.criteria_eq_nil_iff hks, ite_eq_left_iff]
    simp only [reduceCtorEq, imp_false, not_not]
  · rw [hgroups, ← Group.filter_criteria_eq_nil_iff hjs, ite_eq_left_iff]
    simp only [reduceCtorEq, imp_false, not_not]

/-- The conjunctions of a condition were given and checked, those of the groups that are left as
well. -/
theorem isConjunction_of_restriction {r : Restriction} (hvalid : s.validate = .ok ())
    (h : s.restriction columns today = .ok (some r)) :
    ∀ word ∈ r.conjunctions, isConjunction word = true := by
  have hgiven : ∀ word ∈ s.conjunctions, isConjunction word = true := (validate_eq_ok.1 hvalid).2
  intro word hword
  refine hgiven word ?_
  unfold conjunctions
  rcases restriction_cases h with ⟨-, ks, -, hr⟩ | ⟨groups, js, hgroups, hjs, hr⟩
  · split at hr
    · exact absurd hr (by simp only [reduceCtorEq, not_false_eq_true])
    · cases hr
      rcases List.mem_singleton.1 hword with rfl
      exact List.mem_cons_self
  · split at hr
    · exact absurd hr (by simp only [reduceCtorEq, not_false_eq_true])
    · cases hr
      refine List.mem_cons_of_mem _ ?_
      rcases List.mem_cons.1 hword with rfl | hword
      · exact List.mem_cons_self
      · rcases List.mem_map.1 hword with ⟨j, hj, rfl⟩
        -- A word between criteria comes from the group that they were compiled from.
        rcases exists_of_mem_mapM hjs (List.mem_filter.1 hj).1 with ⟨g, hg, hcriteria⟩
        rcases map_eq_ok_iff.1 hcriteria with ⟨ks, -, rfl⟩
        rw [hgroups]
        exact List.mem_cons_of_mem _ (List.mem_map_of_mem hg)

theorem readable_of_restriction {r : Restriction} (hvalid : s.validate = .ok ())
    (hnames : ∀ column ∈ columns, isPlainName column.name = true)
    (h : s.restriction columns today = .ok (some r)) : r.Readable := by
  have hconjunctions := isConjunction_of_restriction hvalid h
  rcases restriction_cases h with ⟨-, ks, hks, hr⟩ | ⟨groups, js, hgroups, hjs, hr⟩
  · by_cases hne : ks = []
    · rw [if_pos hne] at hr
      exact absurd hr (by simp only [reduceCtorEq, not_false_eq_true])
    · rw [if_neg hne] at hr
      cases hr
      exact ⟨hconjunctions _ List.mem_cons_self, hne, Clause.legible_criteria hnames hks⟩
  · by_cases hne : (js.filter fun j => !j.parts.isEmpty) = []
    · rw [if_pos hne] at hr
      exact absurd hr (by simp only [reduceCtorEq, not_false_eq_true])
    · rw [if_neg hne] at hr
      cases hr
      refine ⟨hconjunctions _ List.mem_cons_self, hne, ?_⟩
      intro j hj
      -- A group that is kept has criteria, and its word is one of the conjunctions.
      have hword := hconjunctions _ (List.mem_cons_of_mem _ (List.mem_map_of_mem hj))
      rcases List.mem_filter.1 hj with ⟨hmem, hspoken⟩
      rw [Bool.not_eq_true', List.isEmpty_eq_false_iff] at hspoken
      rcases exists_of_mem_mapM hjs hmem with ⟨g, -, hcriteria⟩
      rcases map_eq_ok_iff.1 hcriteria with ⟨ks, hks, rfl⟩
      exact ⟨hword, hspoken, Clause.legible_criteria hnames hks⟩

/-- If no clause has a column, there is no condition. Otherwise there is one, it can be read, and
however it is read, it is true under every assignment where the specification is. -/
theorem whereText_means {table : String} {start limit : Nat} {q : Query}
    (hnames : ∀ column ∈ columns, isPlainName column.name = true)
    (h : s.query table columns today start limit = .ok q) :
    (Clause.located columns s.asked = [] ∧ q.whereText = [] ∧
      ∀ v, s.meaning columns today v = .ok none) ∨
    (Clause.located columns s.asked ≠ [] ∧ ∃ text, q.whereText = " WHERE ".toList ++ text ∧
      (∃ f, ReadsAs text f) ∧
      ∀ f, ReadsAs text f → ∀ v, s.meaning columns today v = .ok (some (f.eval v))) := by
  rcases bind_eq_ok_iff.1 h with ⟨_, hvalid, hquery⟩
  rcases bind_eq_ok_iff.1 hquery with ⟨restriction?, hrestriction, heq⟩
  cases heq
  have hmeaning := meaning_of_restriction hrestriction
  have hnone := restriction_eq_none_iff hrestriction
  -- With a restriction there is a text, and all that was put together is used at once.
  cases restriction? with
  | none => exact .inl ⟨hnone.1 rfl, rfl, hmeaning⟩
  | some r =>
      have hsome : Clause.located columns s.asked ≠ [] := fun hnil =>
        absurd (hnone.2 hnil) (by simp only [reduceCtorEq, not_false_eq_true])
      have hreadable := readable_of_restriction hvalid hnames hrestriction
      rcases readsAs_of_renders (renders_restriction hreadable) with ⟨hexists, hall⟩
      refine .inr ⟨hsome, r.render, rfl, hexists, ?_⟩
      intro f hf v
      rw [hmeaning v, Option.map_some, hall f hf v]

/-- A day is a conjunction and stands beside Or, and the name could be taken for more than one. -/
theorem whereText_means_mixed :
    let columns : List Column := [⟨"0000", "Name", .text, none⟩, ⟨"d1", "Due", .date, none⟩]
    let day : Date := ⟨2021, 12, 31, by decide⟩
    let next : Date := ⟨2022, 1, 1, by decide⟩
    let s : Specification := flat
      [.byName "Name" .is (.string "it's (A) or B"), .byName "Gone" .is (.string "x"),
        .byKey "d1" .is (.string "2021-12-31")] "oR"
    let r : Restriction := .flat ⟨"oR",
      [⟨"Name", .test (.compare .equal (.text "it's (A) or B"))⟩,
        ⟨"Due", .both (.test (.compare .greaterOrEqual (.day day)))
          (.test (.compare .less (.day next)))⟩]⟩
    let q : Query := ⟨"Tasks", some r, [], 0, 500⟩
    (∀ column ∈ columns, isPlainName column.name = true) ∧
      s.query "Tasks" columns day 0 500 = .ok q ∧
      ∃ text, q.whereText = " WHERE ".toList ++ text ∧ (∃ f, ReadsAs text f) ∧
        ∀ f, ReadsAs text f → ∀ v, s.meaning columns day v = .ok (some (f.eval v)) := by
  intro columns day next s r q
  have hnames : ∀ column ∈ columns, isPlainName column.name = true := by decide
  have hquery : s.query "Tasks" columns day 0 500 = .ok q := by decide
  have hlocated : Clause.located columns s.asked ≠ [] := by decide
  rcases whereText_means hnames hquery with hnone | hsome
  · exact absurd hnone.1 hlocated
  · exact ⟨hnames, hquery, hsome.2⟩

end Specification

end GridQuery
