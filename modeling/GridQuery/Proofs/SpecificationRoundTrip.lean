import GridQuery.Filter.Specification
import GridQuery.Proofs.Records

/-!
# Specifications Read Back

A filter specification is read from what it is written as.

Writing leaves out what a reader supplies by itself: empty lists of clauses and sort keys, and
columns, modifiers, sort types and groups that are not given. It does not leave out what only looks
empty: a null term, a group without clauses, an empty list of groups. For each of the four records
the fields are followed in the order in which they are written, and where one is left out, the blank
record has its value.

Only the terms of clauses are values of any shape. A reader sorts their objects, so the statements
need that the terms were sorted before, as those of every specification that was read are.

## Main definitions

* `Specification.terms`: The terms of all clauses, in the flat list and in groups.

## Theorems

* `Clause.shape_toJson`, `Group.shape_toJson`, `SortKey.shape_toJson`,
  `Specification.shape_toJson`: Each record is read back.
* `Specification.ofJson_toJson_eq_validate`: A written specification is read back if it is valid,
  and refused with the error of its validation if it is not.
-/

namespace GridQuery

open Shape

/-- The terms of all clauses, in the flat list and in groups. -/
def Specification.terms (s : Specification) : List Json :=
  (s.clauses ++ (s.groups.getD []).flatMap Group.clauses).map Clause.term

theorem Clause.shape_toJson {c : Clause} (h : c.term.Ordered) : shape c.toJson = .ok c := by
  -- A field that holds nothing is left out, and then its default is read back.
  have hwritten : c.toJson = .object (Fields.written
      [("column_key", c.columnKey.map .string), ("column_name", c.columnName.map .string),
        ("filter_predicate", some (.string c.predicate.name)), ("filter_term", some c.term),
        ("filter_term_modifier", c.modifierText.map .string)]) := by
    simp only [toJson, Fields.written, List.flatMap_cons, List.flatMap_nil, List.append_assoc,
      List.append_nil]
    rfl
  have hpredicate := variant_string (Predicate.ofName?_name c.predicate)
  have hterm : any c.term = .ok c.term := congrArg Except.ok (Json.normal_of_ordered h)
  rw [hwritten]
  refine record_written ?_ ?_ ?_
  · exact fills_optional rfl (fun _ _ => rfl) rfl <| fills_optional rfl (fun _ _ => rfl) rfl <|
      fills_field rfl hpredicate <| fills_field rfl hterm <|
      fills_optional rfl (fun _ _ => rfl) rfl <| .nil _
  · simp only [List.map_cons, List.map_nil]
    decide
  · -- Only the predicate has to be there.
    intro name hname
    rcases List.mem_singleton.1 hname with rfl
    exact ⟨_, List.mem_cons_of_mem _ (List.mem_cons_of_mem _ List.mem_cons_self)⟩

theorem Group.shape_toJson {g : Group} (h : ∀ c ∈ g.clauses, c.term.Ordered) :
    shape g.toJson = .ok g := by
  have hwritten : g.toJson = .object (Fields.written
      [("filter_conjunction", some (.string g.conjunction)),
        ("filters", some (.array (g.clauses.map Clause.toJson)))]) := rfl
  have hclauses := list_map fun c hc => Clause.shape_toJson (h c hc)
  rw [hwritten]
  refine record_written ?_ ?_ fun name hname => absurd hname List.not_mem_nil
  · exact fills_field rfl rfl <| fills_field rfl hclauses <| .nil _
  · simp only [List.map_cons, List.map_nil]
    decide

theorem SortKey.shape_toJson (s : SortKey) : shape s.toJson = .ok s := by
  have hwritten : s.toJson = .object (Fields.written
      [("column_key", s.columnKey.map .string), ("column_name", s.columnName.map .string),
        ("sort_type", s.sortType.map .string)]) := by
    simp only [toJson, Fields.written, List.flatMap_cons, List.flatMap_nil, List.append_assoc,
      List.append_nil]
  rw [hwritten]
  refine record_written ?_ ?_ fun name hname => absurd hname List.not_mem_nil
  · exact fills_optional rfl (fun _ _ => rfl) rfl <| fills_optional rfl (fun _ _ => rfl) rfl <|
      fills_optional rfl (fun _ _ => rfl) rfl <| .nil _
  · simp only [List.map_cons, List.map_nil]
    decide

namespace Specification

theorem shape_toJson {s : Specification} (h : ∀ term ∈ s.terms, term.Ordered) :
    shape s.toJson = .ok s := by
  -- Empty lists are left out, but an empty list of groups is written.
  have hwritten : s.toJson = .object (Fields.written
      [("filter_conjunction", some (.string s.conjunction)),
        ("filter_groups", s.groups.map fun groups => .array (groups.map Group.toJson)),
        ("filters",
          if s.clauses.isEmpty then none else some (.array (s.clauses.map Clause.toJson))),
        ("group_conjunction", some (.string s.groupConjunction)),
        ("sorts",
          if s.sorts.isEmpty then none else some (.array (s.sorts.map SortKey.toJson)))]) := by
    simp only [toJson, listIf, List.isEmpty_map, Fields.written, List.flatMap_cons,
      List.flatMap_nil, List.append_assoc, List.append_nil]
    rfl
  simp only [terms, List.forall_mem_map, List.forall_mem_append, List.forall_mem_flatMap] at h
  have hclauses : ∀ c ∈ s.clauses, Clause.shape c.toJson = .ok c := fun c hc =>
    Clause.shape_toJson (h.1 c hc)
  have hgroups : ∀ groups, s.groups = some groups →
      (list Group.shape).optional (.array (groups.map Group.toJson)) = .ok (some groups) := by
    intro groups hsome
    have hall : ∀ g ∈ groups, Group.shape g.toJson = .ok g := by
      intro g hg
      refine Group.shape_toJson fun c hc => h.2 g ?_ c hc
      rw [hsome]
      exact hg
    exact map_eq_ok_iff.2 ⟨groups, list_map hall, rfl⟩
  rw [hwritten]
  refine record_written ?_ ?_ fun name hname => absurd hname List.not_mem_nil
  · exact fills_field rfl rfl <| fills_optional rfl hgroups rfl <|
      fills_nonempty rfl hclauses rfl <| fills_field rfl rfl <|
      fills_nonempty rfl (fun key _ => SortKey.shape_toJson key) rfl <| .nil _
  · simp only [List.map_cons, List.map_nil]
    decide

/-- A specification is read back from what it is written as. Reading with validation gives it back
too, if it is valid, and otherwise fails as its validation does. -/
theorem ofJson_toJson_eq_validate {s : Specification} (h : ∀ term ∈ s.terms, term.Ordered) :
    shape s.toJson = .ok s ∧ (s.validate = .ok () → ofJson s.toJson = .ok s) ∧
      ∀ e, s.validate = .error e → ofJson s.toJson = .error e := by
  have hread : ofJson s.toJson = s.validate.map fun _ => s := by
    rw [ofJson, shape_toJson h]
  refine ⟨shape_toJson h, fun hvalid => ?_, fun e hinvalid => ?_⟩
  · rw [hread, hvalid]
    rfl
  · rw [hread, hinvalid]
    rfl

/-- One of the groups is empty, and the terms are null and an object. -/
theorem ofJson_toJson_eq_validate_grouped :
    let s : Specification := (grouped
      [⟨[.byName "Name" .isEmpty .null,
          .byKey "0000" .is (.object [("a", .array [.null, .object []]), ("b", .bool true)])],
          "oR"⟩,
        ⟨[], "And"⟩] "and").withSorts [⟨none, none, none⟩, .byName "Due" (some "up")]
    (∀ term ∈ s.terms, term.Ordered) ∧ s.validate = .ok () ∧ ofJson s.toJson = .ok s := by
  intro s
  have hnormal : ∀ term ∈ s.terms, term.normal = term := by decide
  have hordered : ∀ term ∈ s.terms, term.Ordered := fun term hterm =>
    Json.normal_eq_self_iff.1 (hnormal term hterm)
  have hvalid : s.validate = .ok () := by decide
  exact ⟨hordered, hvalid, (ofJson_toJson_eq_validate hordered).2.1 hvalid⟩

end Specification

end GridQuery
