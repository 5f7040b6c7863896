import GridQuery.Proofs.Sql.Restriction

/-!
# Columns that Are Not Found

What a specification may ask of columns that the table does not have. A clause on such a column is
passed over before its operator, its predicate or its term is looked at, and so is a sort key.
Therefore it makes no difference whether it is there: a specification without it has the same query,
or fails with the same error. What is left out may change the shape of the query more than a clause
does, since a group or a condition or an order of which nothing is left is not written at all; but
that is decided on what was found, and not on what was asked.

The failures of a query are then those of its clauses, and the first clause that fails, group by
group, decides the error. `Clause.failure?` is the failure of one clause where it stands, and the
failure of a query is a search for it through all clauses in the order in which they are written.

## Main definitions

* `Column.Unknown`, `Clause.Unknown`, `SortKey.Unknown`: Nothing with a key or name is found.
* `LeavesOut`: A list without some of its items.
* `Group.Thins`, `Specification.Thins`: A specification without some of its unknown parts.
* `Clause.failure?`: Why a clause cannot be compiled.
* `Specification.sql`: The text of a query.

## Theorems

* `Column.find?_eq_none_iff`, `SortKey.column?_eq_none`: What is unknown is not found.
* `filterMap_of_leavesOut`: Items that a list is searched for in vain may be left out.
* `Clause.criteria_eq_error_iff`: Clauses fail as the first of them that fails.
* `Specification.restriction_eq_error_iff`: So does a specification, in either form.
* `Specification.query_of_thins`: Unknown parts make no difference.
* `Specification.sql_of_thins_and_sql_eq_error_iff`: The two laws of the text of a query.
-/

namespace GridQuery

/-! ## Unknown parts -/

/-- No column has the key, and none has the name; an empty key or name is that of no column. -/
def Column.Unknown (columns : List Column) (key name : Option String) : Prop :=
  ∀ column ∈ columns, (key = some column.key → column.key = "") ∧
    (name = some column.name → column.name = "")

/-- The column of the clause is unknown. -/
def Clause.Unknown (columns : List Column) (c : Clause) : Prop :=
  Column.Unknown columns c.columnKey c.columnName

/-- The column of the sort key is unknown, and it is none that every row has. -/
def SortKey.Unknown (columns : List Column) (s : SortKey) : Prop :=
  Column.Unknown columns s.columnKey s.columnName ∧
    ∀ text ∈ s.columnKey.toList ++ s.columnName.toList, text ∉ Column.timestamps

namespace Column

variable {columns : List Column}

/-- A search for a field that is not empty comes to nothing only where no column has it. -/
theorem find?_field_eq_none_iff {text : Option String} {field : Column → String} :
    ((text.filter (· ≠ "")).bind fun t => columns.find? fun c => field c == t) = none ↔
      ∀ column ∈ columns, text = some (field column) → field column = "" := by
  cases text with
  | none => simp only [Option.filter_none, Option.bind_none, reduceCtorEq, false_implies,
      implies_true]
  | some t =>
      -- A clause with an empty text does not look for a column.
      by_cases ht : t = ""
      · subst ht
        rw [Option.filter_some_neg (by decide), Option.bind_none]
        exact iff_of_true rfl fun column _ heq => (Option.some.inj heq).symm
      · rw [Option.filter_some_pos (by simpa using ht), Option.bind_some, List.find?_eq_none]
        refine forall₂_congr fun column _ => ?_
        rw [beq_iff_eq, Option.some.injEq]
        constructor
        · exact fun hne heq => absurd heq.symm hne
        · exact fun h heq => ht (heq ▸ h heq.symm)

theorem find?_eq_none_iff {key name : Option String} :
    Column.find? columns key name = none ↔ Unknown columns key name := by
  rw [Column.find?, Option.or_eq_none_iff, find?_field_eq_none_iff, find?_field_eq_none_iff]
  exact forall₂_and.symm

end Column

theorem SortKey.column?_eq_none {columns : List Column} {s : SortKey} (h : s.Unknown columns) :
    s.column? columns = none := by
  rw [column?, Column.find?_eq_none_iff.2 h.1]
  refine List.find?_eq_none.2 fun text htext hmem => ?_
  exact h.2 text htext (List.contains_iff_mem.1 hmem)

/-! ## Leaving parts out -/

/-- The second list is the first without some of its items, such as may be left out. -/
inductive LeavesOut {α : Type} (may : α → Prop) : List α → List α → Prop
  | nil : LeavesOut may [] []
  | kept (a : α) {xs ys : List α} : LeavesOut may xs ys → LeavesOut may (a :: xs) (a :: ys)
  | left {a : α} {xs ys : List α} : may a → LeavesOut may xs ys → LeavesOut may (a :: xs) ys

theorem eq_nil_of_leavesOut {α : Type} {may : α → Prop} {ys : List α}
    (h : LeavesOut may [] ys) : ys = [] := by
  cases h
  rfl

theorem filterMap_of_leavesOut {α β : Type} {may : α → Prop} {f : α → Option β} {xs ys : List α}
    (hf : ∀ a, may a → f a = none) (h : LeavesOut may xs ys) :
    ys.filterMap f = xs.filterMap f := by
  induction h with
  | nil => rfl
  | kept a _ ih => rw [List.filterMap_cons, List.filterMap_cons, ih]
  | left ha _ ih => rw [List.filterMap_cons_none (hf _ ha), ih]

/-- The second group is the first without some clauses on unknown columns. -/
structure Group.Thins (columns : List Column) (g g' : Group) : Prop where
  clauses : LeavesOut (Clause.Unknown columns) g.clauses g'.clauses
  conjunction : g'.conjunction = g.conjunction

/-- The second specification is the first without some clauses and sort keys on unknown columns. A
group stays, also if no clause of it does. -/
structure Specification.Thins (columns : List Column) (s s' : Specification) : Prop where
  clauses : LeavesOut (Clause.Unknown columns) s.clauses s'.clauses
  conjunction : s'.conjunction = s.conjunction
  groups : Option.Rel (List.Forall₂ (Group.Thins columns)) s.groups s'.groups
  groupConjunction : s'.groupConjunction = s.groupConjunction
  sorts : LeavesOut (SortKey.Unknown columns) s.sorts s'.sorts

section Thinning

variable {columns : List Column} {today : Date}

theorem Clause.criteria_of_leavesOut {clauses clauses' : List Clause}
    (h : LeavesOut (Clause.Unknown columns) clauses clauses') :
    criteria columns today clauses' = criteria columns today clauses := by
  -- An unknown column is not located, and only what is located is compiled.
  have hlocated : located columns clauses' = located columns clauses := by
    refine filterMap_of_leavesOut (fun c hc => ?_) h
    rw [Column.find?_eq_none_iff.2 hc, Option.map_none]
  rw [criteria, criteria, hlocated]

theorem Group.criteria_of_thins {g g' : Group} (h : g.Thins columns g') :
    g'.criteria columns today = g.criteria columns today := by
  rw [criteria, criteria, Clause.criteria_of_leavesOut h.clauses, h.conjunction]

theorem Group.mapM_criteria_of_thins {groups groups' : List Group}
    (h : List.Forall₂ (Thins columns) groups groups') :
    groups'.mapM (criteria columns today) = groups.mapM (criteria columns today) := by
  induction h with
  | nil => rfl
  | cons hg _ ih => rw [List.mapM_cons, List.mapM_cons, criteria_of_thins hg, ih]

theorem Group.map_conjunction_of_thins {groups groups' : List Group}
    (h : List.Forall₂ (Thins columns) groups groups') :
    groups'.map conjunction = groups.map conjunction := by
  induction h with
  | nil => rfl
  | cons hg _ ih => rw [List.map_cons, List.map_cons, hg.conjunction, ih]

end Thinning

/-! ## Failures -/

/-- Why a clause cannot be compiled, if its column is found and it cannot. -/
def Clause.failure? (columns : List Column) (today : Date) (c : Clause) : Option QueryError :=
  (Column.find? columns c.columnKey c.columnName).bind fun column =>
    errorOf? (c.criterion today column)

theorem findSome?_filterMap {α β γ : Type} {f : α → Option β} {g : β → Option γ} (xs : List α) :
    (xs.filterMap f).findSome? g = xs.findSome? fun x => (f x).bind g := by
  -- What is found first is the head of all that would be found.
  rw [← List.head?_filterMap, List.filterMap_filterMap, List.head?_filterMap]

theorem findSome?_flatMap {α β γ : Type} {f : α → List β} {g : β → Option γ} (xs : List α) :
    (xs.flatMap f).findSome? g = xs.findSome? fun x => (f x).findSome? g := by
  rw [← List.head?_filterMap, List.filterMap_flatMap, List.head?_flatMap]
  simp only [List.head?_filterMap]

section Failures

variable {columns : List Column} {today : Date} {e : QueryError}

theorem Clause.criteria_eq_error_iff {clauses : List Clause} :
    criteria columns today clauses = .error e ↔
      clauses.findSome? (failure? columns today) = some e := by
  rw [criteria, mapM_eq_error_iff, located, findSome?_filterMap]
  -- A clause that is located is compiled on its column.
  have hclause : ∀ c : Clause, ((Column.find? columns c.columnKey c.columnName).map fun column =>
      (column, c)).bind (fun located => errorOf? (located.2.criterion today located.1)) =
        c.failure? columns today := by
    intro c
    rw [failure?, Option.bind_map]
    rfl
  rw [funext hclause]

theorem Group.errorOf?_criteria (g : Group) :
    errorOf? (g.criteria columns today) =
      g.clauses.findSome? (Clause.failure? columns today) := by
  refine Option.ext fun e => ?_
  rw [errorOf?_eq_some_iff, criteria, map_eq_error_iff, Clause.criteria_eq_error_iff]

end Failures

namespace Specification

/-- The text of the query of a specification on a table. -/
def sql (s : Specification) (table : String) (columns : List Column) (today : Date)
    (start limit : Nat) : Except QueryError String :=
  (s.query table columns today start limit).map Query.text

variable {s s' : Specification} {columns : List Column} {today : Date}

theorem groups_of_thins (h : s.Thins columns s') :
    (s.groups = none ∧ s'.groups = none) ∨ ∃ groups groups', s.groups = some groups ∧
      s'.groups = some groups' ∧ List.Forall₂ (Group.Thins columns) groups groups' := by
  have hgroups := h.groups
  generalize s.groups = groups? at hgroups ⊢
  generalize s'.groups = groups'? at hgroups ⊢
  cases hgroups with
  | none => exact .inl ⟨rfl, rfl⟩
  | some hall => exact .inr ⟨_, _, rfl, rfl, hall⟩

theorem validate_of_thins (hvalid : s.validate = .ok ()) (h : s.Thins columns s') :
    s'.validate = .ok () := by
  rw [validate_eq_ok] at hvalid ⊢
  rcases hvalid with ⟨hforms, hwords⟩
  -- Clauses are only left out, so that none stand beside groups now if none did before.
  have hflat : s.clauses = [] → s'.clauses = [] := fun hnil =>
    eq_nil_of_leavesOut (hnil ▸ h.clauses)
  rcases groups_of_thins h with ⟨hnone, hnone'⟩ | ⟨groups, groups', hsome, hsome', hall⟩
  · refine ⟨.inr hnone', ?_⟩
    rw [conjunctions, hnone', h.conjunction, h.groupConjunction, ← hnone]
    exact hwords
  · refine ⟨.inl (hflat (hforms.resolve_right ?_)), ?_⟩
    · rw [hsome]
      exact Option.some_ne_none groups
    · rw [conjunctions, hsome', h.conjunction, h.groupConjunction, Option.getD_some,
        Group.map_conjunction_of_thins hall]
      rwa [conjunctions, hsome, Option.getD_some] at hwords

theorem restriction_of_thins (h : s.Thins columns s') :
    s'.restriction columns today = s.restriction columns today := by
  rw [restriction, restriction, h.conjunction, h.groupConjunction,
    Clause.criteria_of_leavesOut h.clauses]
  rcases groups_of_thins h with ⟨hnone, hnone'⟩ | ⟨groups, groups', hsome, hsome', hall⟩
  · rw [hnone, hnone']
  · rw [hsome, hsome']
    simp only [Group.mapM_criteria_of_thins hall]

/-- A sort key without a column adds nothing to the order. -/
theorem order_of_thins (h : s.Thins columns s') : s'.order columns = s.order columns := by
  refine filterMap_of_leavesOut (fun key hkey => ?_) h.sorts
  rw [SortKey.column?_eq_none hkey, Option.map_none]

theorem query_of_thins {table : String} {start limit : Nat} (hvalid : s.validate = .ok ())
    (h : s.Thins columns s') :
    s'.query table columns today start limit = s.query table columns today start limit := by
  rw [query, query, hvalid, validate_of_thins hvalid h, restriction_of_thins h, order_of_thins h]

theorem restriction_eq_error_iff {e : QueryError} :
    s.restriction columns today = .error e ↔
      s.asked.findSome? (Clause.failure? columns today) = some e := by
  -- Groups are compiled one after another, so the first failure in a group is that of its clauses
  -- in a row with those of all groups before it.
  rw [restriction, asked]
  cases s.groups with
  | none =>
      simp only [bind_eq_error_iff, Clause.criteria_eq_error_iff, reduceCtorEq, and_false,
        exists_false, or_false]
  | some groups =>
      simp only [bind_eq_error_iff, mapM_eq_error_iff, Group.errorOf?_criteria, findSome?_flatMap,
        reduceCtorEq, and_false, exists_false, or_false]

theorem query_eq_error_iff {table : String} {start limit : Nat} {e : QueryError}
    (hvalid : s.validate = .ok ()) :
    s.query table columns today start limit = .error e ↔
      s.asked.findSome? (Clause.failure? columns today) = some e := by
  rw [query, hvalid]
  simp only [bind_eq_error_iff, restriction_eq_error_iff, reduceCtorEq, and_false, exists_false,
    or_false, false_or, true_and, exists_const]

/-- Clauses and sort keys on unknown columns can be left out of a valid specification, and its query
has the same text or fails with the same error. It fails only as its clauses do: with the error of
the first one, in the order in which they are written, whose column is found and that cannot be
compiled on it. -/
theorem sql_of_thins_and_sql_eq_error_iff {table : String} {start limit : Nat}
    (hvalid : s.validate = .ok ()) :
    (∀ s', s.Thins columns s' →
      s'.sql table columns today start limit = s.sql table columns today start limit) ∧
    (∀ e, s.sql table columns today start limit = .error e ↔
      s.asked.findSome? (Clause.failure? columns today) = some e) ∧
    ((∃ e, s.sql table columns today start limit = .error e) ↔
      ∃ c ∈ s.asked, ∃ column, Column.find? columns c.columnKey c.columnName = some column ∧
        ∃ e, c.criterion today column = .error e) ∧
    ∀ c : Clause, c.Unknown columns → c.failure? columns today = none := by
  -- Writing the text cannot fail, so every error is one of the query.
  have herror : ∀ e, s.sql table columns today start limit = .error e ↔
      s.asked.findSome? (Clause.failure? columns today) = some e := fun e =>
    map_eq_error_iff.trans (query_eq_error_iff hvalid)
  refine ⟨fun s' h => ?_, herror, ?_, fun c hc => ?_⟩
  · rw [sql, sql, query_of_thins hvalid h]
  · simp only [herror, ← Option.isSome_iff_exists, List.findSome?_isSome_iff]
    -- A clause fails if and only if it resolves and its criterion does not compile.
    refine exists_congr fun c => and_congr_right fun _ => ?_
    simp only [Option.isSome_iff_exists, Clause.failure?, Option.bind_eq_some_iff,
      errorOf?_eq_some_iff]
    exact exists_comm.trans (exists_congr fun column => exists_and_left)
  · rw [Clause.failure?, Column.find?_eq_none_iff.2 hc, Option.bind_none]

/-- One group loses a clause and another all of its clauses, and the order a key. What is left out
asks for the order of a text. -/
theorem sql_of_thins_and_sql_eq_error_iff_grouped :
    let columns : List Column := [⟨"0000", "Name", .text, none⟩]
    let day : Date := ⟨2021, 12, 31, by decide⟩
    let known : Clause := .byKey "0000" .is (.string "a")
    let gone : Clause := .byName "Gone" .greater (.string "x")
    let s : Specification := ⟨[], "And", some [⟨[gone, known], "Or"⟩, ⟨[gone], "And"⟩], "And",
      [.byName "" none, .byName "_ctime" (some "up")]⟩
    let s' : Specification := ⟨[], "And", some [⟨[known], "Or"⟩, ⟨[], "And"⟩], "And",
      [.byName "_ctime" (some "up")]⟩
    let text := "SELECT * FROM T WHERE (Name = 'a') ORDER BY _ctime ASC LIMIT 0, 500"
    s.validate = .ok () ∧ s.Thins columns s' ∧ s.sql "T" columns day 0 500 = .ok text ∧
      s'.sql "T" columns day 0 500 = .ok text ∧ gone.failure? columns day = none := by
  intro columns day known gone s s' text
  have hvalid : s.validate = .ok () := by decide
  have hgone : gone.Unknown columns := by
    refine Column.find?_eq_none_iff.1 ?_
    decide
  have hsort : (SortKey.byName "" none).Unknown columns :=
    ⟨Column.find?_eq_none_iff.1 (by decide), by decide⟩
  have hfirst : (⟨[gone, known], "Or"⟩ : Group).Thins columns ⟨[known], "Or"⟩ :=
    ⟨.left hgone (.kept known .nil), rfl⟩
  have hsecond : (⟨[gone], "And"⟩ : Group).Thins columns ⟨[], "And"⟩ :=
    ⟨.left hgone .nil, rfl⟩
  have hthins : s.Thins columns s' :=
    ⟨.nil, rfl, .some (.cons hfirst (.cons hsecond .nil)), rfl, .left hsort (.kept _ .nil)⟩
  have htext : s.sql "T" columns day 0 500 = .ok text := by decide +kernel
  have hlaws := @sql_of_thins_and_sql_eq_error_iff s columns day "T" 0 500 hvalid
  exact ⟨hvalid, hthins, htext, (hlaws.1 s' hthins).trans htext, hlaws.2.2.2 gone hgone⟩

end Specification

end GridQuery
