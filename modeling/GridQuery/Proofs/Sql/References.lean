import GridQuery.Proofs.Sql.Identifiers
import GridQuery.Proofs.Sql.Restriction
import Mathlib.Data.List.Destutter

/-!
# The Names in a Query

The table and the columns that a query names, found again in its text.

Names are put into the text as they are, without quotes. So it depends on the name whether it is
there as one identifier; where every name that is referred to is one, the identifiers of the text
are the references of the query in order, and nothing that a term, a number or a keyword brings into
the text is among them. A column is referred to once for every test of its clause.

The text of the condition then tells which columns it was made from. Only how many clauses stand
beside each other on one column may be open, since a conjunction can come from one clause or from
two, and that is what destuttering leaves out. With names that are no identifiers, two conditions on
different columns can have one text.

## Main definitions

* `Fragment.references`, `Query.references`: The names that a formula and a query refer to.
* `Criterion.Named`: The column is named by an identifier.
* `Specification.resolved`: The columns that were found for the clauses of a specification.

## Theorems

* `mentions_fragment`, `mentions_restriction`, `Query.mentions_text`: The texts mention the
  references.
* `destutter_references`: Repeated tests of a column aside, the references are the columns.
* `Specification.criteria_of_restriction`: The criteria are on the columns that were found.
* `Specification.identifiers?_query`: The identifiers of a query, and what its condition tells.
* `Specification.not_identifiers?_query`: Neither holds of names that are no identifiers.
-/

namespace GridQuery

open Sql

/-! ## References -/

/-- The columns of the tests of a formula, one after the other. -/
def Fragment.references (column : String) : Fragment → List String
  | .test _ => [column]
  | .both left right | .either left right => left.references column ++ right.references column

def Criterion.references (k : Criterion) : List String :=
  k.fragment.references k.column

/-- The column is named by an identifier, and the formula on it is legible. -/
structure Criterion.Named (k : Criterion) : Prop where
  column : isIdentifier k.column.toList = true
  fragment : k.fragment.Legible

/-- The formulas of a condition, those of all groups in one list. -/
def Restriction.criteria : Restriction → List Criterion
  | .flat criteria => criteria.parts
  | .grouped groups => groups.parts.flatMap Junction.parts

namespace Query

/-- The formulas of the condition, if there is one. -/
def criteria (q : Query) : List Criterion :=
  q.restriction.elim [] Restriction.criteria

/-- The names that a query refers to: the table, the columns of its condition, and those that it is
sorted by. -/
def references (q : Query) : List String :=
  q.table :: q.criteria.flatMap Criterion.references ++ q.order.map Prod.fst

end Query

/-- The columns that were found for the clauses of a specification, in order. -/
def Specification.resolved (s : Specification) (columns : List Column) : List Column :=
  (Clause.located columns s.asked).map Prod.fst

/-! ## Texts mention the references -/

namespace Sql

theorem mentions_operand {o : Operand} (h : o.Legible) : Mentions o.render [] := by
  cases o with
  | text s => exact mentions_literal s.toList
  | numeral digits => exact mentions_numeral h
  | truth b => cases b <;> exact mentions_keyword (by decide)
  | day d => exact mentions_literal d.text

theorem mentions_among (m : Membership) (options : List String) :
    Mentions (Test.among m options).render [] := by
  have hwords : Mentions m.words.toList [] := by
    cases m <;> exact mentions_phrase (by decide)
  have hoptions : Mentions ([',', ' '].intercalate (options.map fun o => quoted o.toList))
      (options.flatMap fun _ => []) :=
    mentions_intercalate separates_comma fun o _ => mentions_literal o.toList
  rw [List.flatMap_eq_nil_iff.2 fun _ _ => rfl] at hoptions
  rw [render_among]
  exact mentions_append_blank hwords (mentions_parenthesized hoptions)

theorem mentions_test {t : Test} (h : t.Legible) : Mentions t.render [] := by
  -- An operand is a literal, a numeral or a truth value, and none of them names a column.
  cases t with
  | compare relation operand =>
      have hsymbol : Mentions relation.symbol.toList [] := by
        cases relation <;> exact mentions_signs (by decide)
      exact mentions_append_blank hsymbol (mentions_operand h)
  | contains word =>
      have hwords : Mentions "like".toList [] := mentions_phrase (by decide)
      exact mentions_append_blank hwords (mentions_literal (pattern word))
  | lacks word =>
      have hwords : Mentions "not like".toList [] := mentions_phrase (by decide)
      exact mentions_append_blank hwords (mentions_literal (pattern word))
  | among m options => exact mentions_among m options
  | isNull => exact mentions_phrase (by decide)
  | isNotNull => exact mentions_phrase (by decide)

/-- Two texts with a keyword between them. -/
theorem mentions_joined (word : String) {left right : List Char} {names others : List (List Char)}
    (hword : isReserved word.toList = true) (hleft : Mentions left names)
    (hright : Mentions right others) :
    Mentions (left ++ (' ' :: word.toList ++ [' ']) ++ right) (names ++ others) := by
  rw [List.append_assoc]
  exact mentions_append hleft ((separates_keyword hword).mentions hright)
    (stops_cons (.inl rfl) _)

theorem mentions_fragment {f : Fragment} (h : f.Legible) {column : String}
    (hcolumn : isIdentifier column.toList = true) :
    Mentions (f.render column) ((f.references column).map String.toList) := by
  induction f with
  | test t => exact mentions_append_blank (mentions_identifier hcolumn) (mentions_test h)
  | both left right ihleft ihright =>
      rw [Fragment.references, List.map_append]
      exact mentions_joined "and" (by decide) (ihleft h.1) (ihright h.2)
  | either left right ihleft ihright =>
      have hjoined := mentions_joined "or" (by decide) (ihleft h.1) (ihright h.2)
      rw [Fragment.references, List.map_append]
      exact mentions_parenthesized hjoined

theorem isReserved_of_isConjunction {word : String}
    (h : Specification.isConjunction word = true) : isReserved word.toList = true := by
  have hand : Text.sameIgnoringCase word "and" = isKeyword "and" word.toList := rfl
  have hor : Text.sameIgnoringCase word "or" = isKeyword "or" word.toList := rfl
  rw [Specification.isConjunction, hand, hor, Bool.or_eq_true] at h
  rw [isReserved, Bool.and_eq_true, List.any_eq_true]
  rcases h with h | h
  · exact ⟨isWord_of_isKeyword h (by decide) (by decide), "and", by decide, h⟩
  · exact ⟨isWord_of_isKeyword h (by decide) (by decide), "or", by decide, h⟩

theorem mentions_criteria {j : Junction Criterion}
    (hconjunction : Specification.isConjunction j.conjunction = true)
    (h : ∀ k ∈ j.parts, k.Named) :
    Mentions (j.render Criterion.render)
      ((j.parts.flatMap Criterion.references).map String.toList) := by
  rw [List.map_flatMap]
  exact mentions_intercalate (separates_keyword (isReserved_of_isConjunction hconjunction))
    fun k hk => mentions_fragment (h k hk).fragment (h k hk).column

theorem mentions_restriction {r : Restriction}
    (hconjunctions : ∀ word ∈ r.conjunctions, Specification.isConjunction word = true)
    (h : ∀ k ∈ r.criteria, k.Named) :
    Mentions r.render ((r.criteria.flatMap Criterion.references).map String.toList) := by
  cases r with
  | flat criteria => exact mentions_criteria (hconjunctions _ List.mem_cons_self) h
  | grouped groups =>
      -- Between the groups stands a keyword, and a keyword is no name.
      have houter := isReserved_of_isConjunction (hconjunctions _ List.mem_cons_self)
      rw [Restriction.criteria, List.flatMap_assoc, List.map_flatMap]
      refine mentions_intercalate (separates_keyword houter) fun j hj => ?_
      exact mentions_parenthesized (mentions_criteria
        (hconjunctions _ (List.mem_cons_of_mem _ (List.mem_map_of_mem hj)))
        fun k hk => h k (List.mem_flatMap.2 ⟨j, hj, hk⟩))

theorem mentions_digits (n : Nat) : Mentions (Decimal.digits n) [] :=
  mentions_numeral
    (Decimal.isSome_read?_of_isUnsigned (Decimal.isUnsigned_of_writes (Decimal.writes_digits n)))

end Sql

namespace Query

variable {q : Query}

theorem stops_whereText (q : Query) : Stops q.whereText := by
  unfold whereText
  split
  · exact stops_nil
  · exact stops_cons (.inl rfl) _

theorem stops_orderText (q : Query) : Stops q.orderText := by
  unfold orderText
  split
  · exact stops_nil
  · exact stops_cons (.inl rfl) _

theorem mentions_whereText
    (hconjunctions : ∀ r, q.restriction = some r →
      ∀ word ∈ r.conjunctions, Specification.isConjunction word = true)
    (h : ∀ k ∈ q.criteria, k.Named) :
    Mentions q.whereText ((q.criteria.flatMap Criterion.references).map String.toList) := by
  unfold whereText criteria at *
  cases hr : q.restriction with
  | none => exact mentions_nil
  | some r =>
      rw [hr] at h
      -- A blank stands in front, which keeps the clause apart from the table.
      have hword : Mentions "WHERE".toList [] := mentions_keyword (by decide)
      exact mentions_cons (by decide)
        (mentions_append_blank hword (mentions_restriction (hconjunctions r hr) h))

theorem mentions_orderText (h : ∀ key ∈ q.order, isIdentifier key.1.toList = true) :
    Mentions q.orderText ((q.order.map Prod.fst).map String.toList) := by
  unfold orderText
  split
  · next hempty =>
      rw [List.isEmpty_iff.1 hempty]
      exact mentions_nil
  · have hkeys : ∀ key ∈ q.order,
        Mentions (key.1.toList ++ ' ' :: key.2.keyword.toList) [key.1.toList] := by
      intro key hkey
      -- Every key is a column and a direction, and a direction is a keyword.
      have hdirection : Mentions key.2.keyword.toList [] := by
        cases key.2 <;> exact mentions_keyword (by decide)
      exact mentions_append_blank (mentions_identifier (h key hkey)) hdirection
    have hwords : Mentions "ORDER BY".toList [] := mentions_phrase (by decide)
    have hall := mentions_intercalate separates_comma hkeys
    rw [← List.map_eq_flatMap] at hall
    rw [List.map_map]
    exact mentions_cons (by decide) (mentions_append_blank hwords hall)

theorem mentions_page (start limit : Nat) :
    Mentions (" LIMIT ".toList ++ Decimal.digits start ++ [',', ' '] ++ Decimal.digits limit)
      [] := by
  have hword : Mentions "LIMIT".toList [] := mentions_keyword (by decide)
  have hnumbers : Mentions (Decimal.digits start ++ ([',', ' '] ++ Decimal.digits limit)) [] :=
    mentions_append (mentions_digits start) (separates_comma.mentions (mentions_digits limit))
      separates_comma.stops
  have hall := mentions_cons (c := ' ') (by decide) (mentions_append_blank hword hnumbers)
  rw [List.append_assoc, List.append_assoc]
  exact hall

theorem mentions_from {table : String} (h : isIdentifier table.toList = true) :
    Mentions ("SELECT * FROM ".toList ++ table.toList) [table.toList] := by
  have hselect : Mentions "SELECT".toList [] := mentions_keyword (by decide)
  have hstar : Mentions ['*'] [] := mentions_signs (by decide)
  have hfrom : Mentions "FROM".toList [] := mentions_keyword (by decide)
  exact mentions_append_blank hselect
    (mentions_append_blank hstar (mentions_append_blank hfrom (mentions_identifier h)))

theorem mentions_text (htable : isIdentifier q.table.toList = true)
    (hwhere : Mentions q.whereText ((q.criteria.flatMap Criterion.references).map String.toList))
    (horder : ∀ key ∈ q.order, isIdentifier key.1.toList = true) :
    Mentions q.text.toList (q.references.map String.toList) := by
  -- The text is put together of parts that begin with a blank, so no name runs into the next.
  have hcondition := mentions_append (mentions_from htable) hwhere q.stops_whereText
  have hsorted := mentions_append hcondition (mentions_orderText horder) q.stops_orderText
  have hall := mentions_append hsorted (mentions_page q.start q.limit) (stops_cons (.inl rfl) _)
  have htext : q.text.toList = "SELECT * FROM ".toList ++ q.table.toList ++ q.whereText ++
      q.orderText ++ (" LIMIT ".toList ++ Decimal.digits q.start ++ [',', ' '] ++
        Decimal.digits q.limit) := by
    simp only [← List.append_assoc]
    exact String.toList_ofList
  rw [htext, references, List.map_append, List.map_cons]
  simp only [List.append_nil] at hall
  exact hall

end Query

/-! ## References and columns -/

theorem Sql.identifiers?_of_mentions {cs : List Char} {names : List (List Char)}
    (h : Mentions cs names) : identifiers? cs = some names := by
  have hall := h [] stops_nil
  rwa [List.append_nil, identifiers?_nil, Option.map_some, List.append_nil] at hall

/-- A formula refers to its column once for every test, and it has one. -/
theorem exists_references_eq_replicate (f : Fragment) (column : String) :
    ∃ n, f.references column = List.replicate (n + 1) column := by
  induction f with
  | test t => exact ⟨0, rfl⟩
  | both left right ihleft ihright | either left right ihleft ihright =>
      rcases ihleft with ⟨m, hm⟩
      rcases ihright with ⟨n, hn⟩
      refine ⟨m + 1 + n, ?_⟩
      rw [Fragment.references, hm, hn, List.replicate_append_replicate]
      rfl

/-- References to the name that is before them are left out. -/
theorem destutter'_replicate_append (n : Nat) (name : String) (rest : List String) :
    (List.replicate n name ++ rest).destutter' (· ≠ ·) name = rest.destutter' (· ≠ ·) name := by
  induction n with
  | zero => rfl
  | succ n ih =>
      rw [List.replicate_succ, List.cons_append,
        List.destutter'_cons_neg _ (not_not_intro rfl), ih]

theorem destutter'_references (ks : List Criterion) (name : String) :
    (ks.flatMap Criterion.references).destutter' (· ≠ ·) name =
      (ks.map Criterion.column).destutter' (· ≠ ·) name := by
  induction ks generalizing name with
  | nil => rfl
  | cons k ks ih =>
      rcases exists_references_eq_replicate k.fragment k.column with ⟨n, hn⟩
      rw [List.flatMap_cons, List.map_cons, Criterion.references, hn]
      -- One more reference to the column stays if another column was before, and else none.
      by_cases hname : name = k.column
      · rw [hname, destutter'_replicate_append, ih, List.destutter'_cons_neg _ (not_not_intro rfl)]
      · rw [List.replicate_succ, List.cons_append, List.destutter'_cons_pos _ hname,
          destutter'_replicate_append, ih, List.destutter'_cons_pos _ hname]

/-- Repetitions beside each other left out, the references of formulas are their columns. -/
theorem destutter_references (ks : List Criterion) :
    (ks.flatMap Criterion.references).destutter (· ≠ ·) =
      (ks.map Criterion.column).destutter (· ≠ ·) := by
  cases ks with
  | nil => rfl
  | cons k ks =>
      rcases exists_references_eq_replicate k.fragment k.column with ⟨n, hn⟩
      rw [List.flatMap_cons, List.map_cons, Criterion.references, hn, List.replicate_succ,
        List.cons_append, List.destutter_cons', List.destutter_cons', destutter'_replicate_append,
        destutter'_references]

theorem mem_references {ks : List Criterion} {name : String} :
    name ∈ ks.flatMap Criterion.references ↔ name ∈ ks.map Criterion.column := by
  rw [List.mem_flatMap, List.mem_map]
  refine exists_congr fun k => and_congr_right fun _ => ?_
  rcases exists_references_eq_replicate k.fragment k.column with ⟨n, hn⟩
  rw [Criterion.references, hn, List.mem_replicate]
  exact ⟨fun h => h.2.symm, fun h => ⟨Nat.succ_ne_zero n, h.symm⟩⟩

theorem Clause.legible_fragment_of_criteria {columns : List Column} {today : Date}
    {clauses : List Clause} {ks : List Criterion}
    (h : criteria columns today clauses = .ok ks) : ∀ k ∈ ks, k.fragment.Legible := by
  intro k hk
  rcases exists_of_mem_criteria h hk with ⟨column, -, c, hcriterion⟩
  rcases bind_eq_ok_iff.1 hcriterion with ⟨operator, -, hfragment⟩
  rcases bind_eq_ok_iff.1 hfragment with ⟨f, hf, heq⟩
  cases heq
  exact legible_fragment hf

theorem Clause.map_column_criteria {columns : List Column} {today : Date} {clauses : List Clause}
    {ks : List Criterion} (h : criteria columns today clauses = .ok ks) :
    ks.map Criterion.column = (located columns clauses).map fun p => p.1.name := by
  have hall := mapM_eq_ok_iff.1 h
  clear h
  generalize located columns clauses = ps at hall ⊢
  induction hall with
  | nil => rfl
  | @cons p k ps ks hk _ ih =>
      -- A criterion is about the column that its clause resolves to.
      rcases bind_eq_ok_iff.1 hk with ⟨operator, -, hfragment⟩
      rcases bind_eq_ok_iff.1 hfragment with ⟨f, -, heq⟩
      cases heq
      rw [List.map_cons, List.map_cons, ih]

/-- There is no condition where there would be no formulas in it. -/
theorem criteria_ite {p : Prop} [Decidable p] {r : Restriction} (h : p → r.criteria = []) :
    (if p then none else some r).elim [] Restriction.criteria = r.criteria := by
  split
  · next hp => exact (h hp).symm
  · rfl

/-- A group of which nothing is left has no formulas. -/
theorem flatMap_parts_filter (js : List (Junction Criterion)) :
    (js.filter fun j => !j.parts.isEmpty).flatMap Junction.parts = js.flatMap Junction.parts := by
  induction js with
  | nil => rfl
  | cons j js ih =>
      rw [List.filter_cons, List.flatMap_cons]
      split
      · rw [List.flatMap_cons, ih]
      · next hempty =>
          rw [Bool.not_eq_true, Bool.not_eq_false', List.isEmpty_iff] at hempty
          rw [ih, hempty, List.nil_append]

theorem Group.map_column_criteria {columns : List Column} {today : Date} {groups : List Group}
    {js : List (Junction Criterion)} (h : groups.mapM (Group.criteria columns today) = .ok js) :
    (js.flatMap Junction.parts).map Criterion.column =
      (Clause.located columns (groups.flatMap Group.clauses)).map fun p => p.1.name := by
  have hall := mapM_eq_ok_iff.1 h
  clear h
  induction hall with
  | nil => rfl
  | @cons g j groups js hg _ ih =>
      rcases map_eq_ok_iff.1 hg with ⟨ks, hks, rfl⟩
      -- The groups are gone through in order, and so are the clauses of all of them.
      have hlocated : Clause.located columns (g.clauses ++ groups.flatMap Group.clauses) =
          Clause.located columns g.clauses ++
            Clause.located columns (groups.flatMap Group.clauses) := List.filterMap_append
      rw [List.flatMap_cons, List.map_append, ih, Clause.map_column_criteria hks,
        List.flatMap_cons, hlocated, List.map_append]

namespace Specification

variable {s : Specification} {columns : List Column} {today : Date} {table : String}
  {start limit : Nat} {q : Query}

/-- The condition of a query is that of a valid specification. -/
theorem query_cases (h : s.query table columns today start limit = .ok q) :
    s.validate = .ok () ∧ s.restriction columns today = .ok q.restriction := by
  rcases bind_eq_ok_iff.1 h with ⟨_, hvalid, hquery⟩
  rcases bind_eq_ok_iff.1 hquery with ⟨restriction?, hrestriction, heq⟩
  cases heq
  exact ⟨hvalid, hrestriction⟩

/-- The criteria of a condition are those of all clauses, on the columns that were found. -/
theorem criteria_of_restriction {r : Option Restriction}
    (h : s.restriction columns today = .ok r) :
    (r.elim [] Restriction.criteria).map Criterion.column =
        (s.resolved columns).map Column.name ∧
      ∀ k ∈ r.elim [] Restriction.criteria, k.fragment.Legible := by
  unfold resolved asked
  rw [List.map_map]
  rcases restriction_cases h with ⟨hgroups, ks, hks, rfl⟩ | ⟨groups, js, hgroups, hjs, rfl⟩
  · rw [hgroups, criteria_ite]
    · exact ⟨Clause.map_column_criteria hks, Clause.legible_fragment_of_criteria hks⟩
    · exact fun hnil => hnil
  · -- A group that is dropped has no criteria to begin with.
    rw [hgroups, criteria_ite, Restriction.criteria, flatMap_parts_filter]
    · refine ⟨Group.map_column_criteria hjs, fun k hk => ?_⟩
      rcases List.mem_flatMap.1 hk with ⟨j, hj, hkj⟩
      rcases exists_of_mem_mapM hjs hj with ⟨g, -, hcriteria⟩
      rcases map_eq_ok_iff.1 hcriteria with ⟨ks, hks, rfl⟩
      exact Clause.legible_fragment_of_criteria hks k hkj
    · intro hnil
      rw [Restriction.criteria, hnil, List.flatMap_nil]

/-- The criteria of a query are legible, and named by identifiers if the columns are. -/
theorem named_of_restriction {r : Option Restriction}
    (hnames : ∀ column ∈ s.resolved columns, isIdentifier column.name.toList = true)
    (h : s.restriction columns today = .ok r) : ∀ k ∈ r.elim [] Restriction.criteria, k.Named := by
  rcases criteria_of_restriction h with ⟨hcolumns, hlegible⟩
  intro k hk
  have hname : k.column ∈ (s.resolved columns).map Column.name :=
    hcolumns ▸ List.mem_map_of_mem hk
  rcases List.mem_map.1 hname with ⟨found, hfound, hsame⟩
  exact ⟨hsame ▸ hnames found hfound, hlegible k hk⟩

theorem mentions_whereText
    (hnames : ∀ column ∈ s.resolved columns, isIdentifier column.name.toList = true)
    (h : s.query table columns today start limit = .ok q) :
    Mentions q.whereText ((q.criteria.flatMap Criterion.references).map String.toList) := by
  rcases query_cases h with ⟨hvalid, hrestriction⟩
  refine Query.mentions_whereText ?_ (named_of_restriction hnames hrestriction)
  intro r hr
  rw [hr] at hrestriction
  exact isConjunction_of_restriction hvalid hrestriction

theorem mem_columns_of_mem_resolved {column : Column} (h : column ∈ s.resolved columns) :
    column ∈ columns := by
  rcases List.mem_map.1 h with ⟨⟨column', c⟩, hlocated, rfl⟩
  rcases List.mem_filterMap.1 hlocated with ⟨c', -, hfound⟩
  rcases Option.map_eq_some_iff.1 hfound with ⟨column, hfind, heq⟩
  cases heq
  exact Column.mem_of_find? hfind

/-- Columns with names of their own are told by their names. -/
theorem mem_resolved_iff (hnodup : (columns.map Column.name).Nodup) {column : Column} :
    column ∈ s.resolved columns ↔
      column ∈ columns ∧ column.name ∈ (s.resolved columns).map Column.name := by
  constructor
  · exact fun h => ⟨mem_columns_of_mem_resolved h, List.mem_map_of_mem h⟩
  · rintro ⟨hmem, hname⟩
    rcases List.mem_map.1 hname with ⟨column', hresolved, heq⟩
    have hsame : column' = column :=
      List.inj_on_of_nodup_map hnodup (mem_columns_of_mem_resolved hresolved) hmem heq
    exact hsame ▸ hresolved

/-- Where all names that a query refers to are identifiers, the identifiers of its text are these
references, in order and each as one. Those of its condition are on the columns that were found, so
a query of another specification on the same columns that has the same condition, as a text, found
the same ones: their names are the same in order, repetitions beside each other aside, and the
columns are the same if no two of the table have one name. -/
theorem identifiers?_query (h : s.query table columns today start limit = .ok q)
    (hnames : ∀ name ∈ q.references, isIdentifier name.toList = true) :
    identifiers? q.text.toList = some (q.references.map String.toList) ∧
      q.criteria.map Criterion.column = (s.resolved columns).map Column.name ∧
      ∀ (s' : Specification) (table' : String) (today' : Date) (start' limit' : Nat) (q' : Query),
        s'.query table' columns today' start' limit' = .ok q' →
        (∀ column ∈ s'.resolved columns, isIdentifier column.name.toList = true) →
        q'.whereText = q.whereText →
        ((s'.resolved columns).map Column.name).destutter (· ≠ ·) =
            ((s.resolved columns).map Column.name).destutter (· ≠ ·) ∧
          ((columns.map Column.name).Nodup →
            ∀ column, column ∈ s'.resolved columns ↔ column ∈ s.resolved columns) := by
  have hcolumns := (criteria_of_restriction (query_cases h).2).1
  rw [Query.references, List.cons_append, List.forall_mem_cons, List.forall_mem_append] at hnames
  rcases hnames with ⟨htable, hcondition, horder⟩
  have hfound : ∀ column ∈ s.resolved columns, isIdentifier column.name.toList = true := by
    intro column hcolumn
    refine hcondition _ (mem_references.2 ?_)
    rw [Query.criteria, hcolumns]
    exact List.mem_map_of_mem hcolumn
  have hwhere := mentions_whereText hfound h
  refine ⟨?_, hcolumns, ?_⟩
  · exact identifiers?_of_mentions
      (Query.mentions_text htable hwhere (List.forall_mem_map.1 horder))
  · intro s' table' today' start' limit' q' h' hfound' hsameText
    -- The identifiers are worked out from the text alone, so one text has one row of references.
    have hcolumns' := (criteria_of_restriction (query_cases h').2).1
    have htext := identifiers?_of_mentions hwhere
    have htext' := identifiers?_of_mentions (mentions_whereText hfound' h')
    rw [hsameText, htext, Option.some.injEq] at htext'
    have hsame : q.criteria.flatMap Criterion.references =
        q'.criteria.flatMap Criterion.references :=
      List.map_injective_iff.2 (fun _ _ => String.toList_injective) htext'
    refine ⟨?_, fun hnodup column => ?_⟩
    · rw [← hcolumns, ← hcolumns']
      exact (destutter_references _).symm.trans (hsame ▸ destutter_references _)
    · rw [mem_resolved_iff hnodup, mem_resolved_iff hnodup, ← hcolumns, ← hcolumns']
      refine and_congr_right fun _ => ?_
      exact mem_references.symm.trans (hsame ▸ mem_references)

/-- Names of two scripts beside one that is no identifier, a group of two clauses on one column that
might be one clause, days for which one column needs three tests, and an order by a time that no
column holds. -/
theorem identifiers?_query_scripts :
    let columns : List Column :=
      [⟨"c", "Größe_2", .creator, none⟩, ⟨"0000", "Full Name", .text, none⟩,
        ⟨"d", "期限", .date, none⟩]
    let day : Date := ⟨2021, 12, 6, by decide⟩
    let due : Group := ⟨[.byKey "d" .isNot (.string "2021-12-06")], "Or"⟩
    let s : Specification := (grouped
      [⟨[.byKey "c" .doesNotContain (.array [.string "a", .string "it's b"])], "and"⟩, due]
      "Or").withSorts [.byName "_mtime" none]
    let s' : Specification := grouped
      [⟨[.byKey "c" .doesNotContain (.string "a"), .byKey "c" .doesNotContain (.string "it's b")],
        "and"⟩, due] "Or"
    let differs (id : String) : Fragment := .test (.compare .notSame (.text id))
    let isNot : Criterion := ⟨"期限", .both
      (.either (.test (.compare .greaterOrEqual (.day ⟨2021, 12, 7, by decide⟩)))
        (.test (.compare .lessOrEqual (.day ⟨2021, 12, 5, by decide⟩)))) (.test .isNotNull)⟩
    let q : Query := ⟨"Tabelle1", some (.grouped ⟨"Or",
      [⟨"and", [⟨"Größe_2", .both (differs "a") (differs "it's b")⟩]⟩, ⟨"Or", [isNot]⟩]⟩),
      [("_mtime", .descending)], 0, 500⟩
    let q' : Query := ⟨"T", some (.grouped ⟨"Or",
      [⟨"and", [⟨"Größe_2", differs "a"⟩, ⟨"Größe_2", differs "it's b"⟩]⟩, ⟨"Or", [isNot]⟩]⟩),
      [], 0, 1⟩
    s.query "Tabelle1" columns day 0 500 = .ok q ∧
      (∀ name ∈ q.references, isIdentifier name.toList = true) ∧
      s'.query "T" columns day 0 1 = .ok q' ∧
      (∀ column ∈ s'.resolved columns, isIdentifier column.name.toList = true) ∧
      q'.whereText = q.whereText ∧ (columns.map Column.name).Nodup ∧
      identifiers? q.text.toList = some (["Tabelle1", "Größe_2", "Größe_2", "期限", "期限", "期限",
        "_mtime"].map String.toList) ∧
      ∀ column, column ∈ s'.resolved columns ↔ column ∈ s.resolved columns := by
  intro columns day due s s' differs isNot q q'
  have hquery : s.query "Tabelle1" columns day 0 500 = .ok q := by decide
  have hnames : ∀ name ∈ q.references, isIdentifier name.toList = true := by decide
  have hquery' : s'.query "T" columns day 0 1 = .ok q' := by decide
  have hnames' : ∀ column ∈ s'.resolved columns, isIdentifier column.name.toList = true := by
    decide
  have hwhere : q'.whereText = q.whereText := by decide
  have hnodup : (columns.map Column.name).Nodup := by decide
  rcases identifiers?_query hquery hnames with ⟨hidentifiers, -, hsame⟩
  exact ⟨hquery, hnames, hquery', hnames', hwhere, hnodup, hidentifiers,
    (hsame s' "T" day 0 1 q' hquery' hnames' hwhere).2 hnodup⟩

/-- A name with a blank is there as two identifiers, and a name that is a comparison and what
follows it makes one condition of two. -/
theorem not_identifiers?_query :
    let day : Date := ⟨2021, 12, 6, by decide⟩
    let named (name : String) : Column := ⟨name, name, .number, none⟩
    let columns : List Column := [named "A", named "B", named "A > 1 And B"]
    let equals (name : String) : Clause := .byName name .equal (.number (.int 2))
    let one : Specification := flat [equals "A > 1 And B"] "And"
    let two : Specification := flat [.byName "A" .greater (.number (.int 1)), equals "B"] "And"
    let isTwo (name : String) : Criterion := ⟨name, .test (.compare .equal (.numeral "2"))⟩
    let overOne : Criterion := ⟨"A", .test (.compare .greater (.numeral "1"))⟩
    let spaced : Query := ⟨"T", some (.flat ⟨"And", [isTwo "Full Name"]⟩), [], 0, 500⟩
    let q : Query := ⟨"T", some (.flat ⟨"And", [isTwo "A > 1 And B"]⟩), [], 0, 500⟩
    let q' : Query := ⟨"T", some (.flat ⟨"And", [overOne, isTwo "B"]⟩), [], 0, 500⟩
    ((flat [equals "Full Name"] "And").query "T" [named "Full Name"] day 0 500 = .ok spaced ∧
      spaced.references = ["T", "Full Name"] ∧
      identifiers? spaced.text.toList = some (["T", "Full", "Name"].map String.toList)) ∧
    one.query "T" columns day 0 500 = .ok q ∧ two.query "T" columns day 0 500 = .ok q' ∧
      q'.whereText = q.whereText ∧ one.resolved columns = [named "A > 1 And B"] ∧
      two.resolved columns = [named "A", named "B"] := by
  intro day named columns equals one two isTwo overOne spaced q q'
  have hspaced : identifiers? spaced.text.toList =
      some (["T", "Full", "Name"].map String.toList) := by decide +kernel
  exact ⟨⟨by decide, by decide, hspaced⟩, by decide, by decide, by decide, by decide, by decide⟩

end Specification

end GridQuery
