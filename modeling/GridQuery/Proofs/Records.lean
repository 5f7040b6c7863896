import GridQuery.Json.Record
import GridQuery.Proofs.Outcome
import Mathlib.Data.List.Nodup
import Mathlib.Data.String.Basic

/-!
# Records Read Back

What a record needs for its written fields to be read back as the record.

A record is written as an object in which some fields may be left out, and read field by field into
a blank record. The writer decides for each field by what it holds whether it is written; the reader
knows nothing of that, and has the blank record's value for a field that it does not meet. So the
two agree if a field is left out only where it holds what the record held before it. `Fills` follows
the writer's list of fields with that in mind, and a record is read back along it, whatever the
fields are.

Whether an object is read at all does not depend on the order of its fields. A field takes a value
or not, whatever record it is put into, so that with distinct keys there is one condition for each
field that the record knows. `Suits` gathers them, with the names that were met before so that it
follows the reader from field to field.

Values of any shape are read with their objects sorted, so they come back unchanged if they were
sorted before. `Json.Ordered` says that without sorting, and it holds of every value that was read.

## Main definitions

* `Json.Ordered`: In every object the keys increase.
* `Fields.written`: The fields that have a value to write.
* `Shape.Fills`: The written fields take one record to another.
* `Shape.requiredNames`: The fields that have to be written.
* `Shape.Keeps`: What is so of a record stays so, whatever field is put into it.
* `Shape.Places`: Where in a record the value of a field is.
* `Shape.Uniform`: Whether a field takes a value does not depend on the record.
* `Shape.Suits`: Each field takes its value, and none that is required is missing.

## Theorems

* `Json.normal_eq_self_iff`: The values that sorting leaves alone are the ordered ones.
* `Json.ordered_normal`: Sorting makes a value ordered.
* `Shape.fromFields_nil_eq_ok_iff`, `Shape.fromFields_cons_eq_ok_iff`: What the reader does when
  nothing is left, and with a field.
* `Shape.record_written`: A record is read from its written fields.
* `Shape.fills_field`, `Shape.fills_optional`, `Shape.fills_nonempty`: Fields that are always
  written, and those that are left out where they hold nothing.
* `Shape.record_keeps`: What stays so field by field is so of every record that was read.
* `Shape.record_places`: What was read into the place of a field is what stands under its name.
* `Shape.exists_record_iff`: Which objects a record is read from.
-/

namespace GridQuery

/-! ## Ordered values -/

namespace Json

mutual

/-- In every object of the value the keys increase, so that none is there twice. -/
def Ordered : Json → Prop
  | .array items => ItemsOrdered items
  | .object fields => (fields.map Prod.fst).Pairwise (· < ·) ∧ FieldsOrdered fields
  | _ => True

def ItemsOrdered : List Json → Prop
  | [] => True
  | item :: rest => item.Ordered ∧ ItemsOrdered rest

def FieldsOrdered : List (String × Json) → Prop
  | [] => True
  | (_, value) :: rest => value.Ordered ∧ FieldsOrdered rest

end

theorem fieldsOrdered_iff {fields : Fields} :
    FieldsOrdered fields ↔ ∀ field ∈ fields, field.2.Ordered := by
  induction fields with
  | nil => exact iff_of_true trivial fun field hfield => absurd hfield List.not_mem_nil
  | cons field rest ih => rw [FieldsOrdered, ih, List.forall_mem_cons]

end Json

namespace Fields

/-- A key past all others is written at the end. -/
theorem insert_of_forall_lt {key : String} {fields : Fields}
    (h : ∀ k ∈ fields.map Prod.fst, k < key) (value : Json) :
    insert key value fields = fields ++ [(key, value)] := by
  induction fields with
  | nil => rfl
  | cons field rest ih =>
      have hlt : field.1 < key := h field.1 List.mem_cons_self
      rw [insert, if_neg hlt.ne, if_neg hlt.not_gt,
        ih fun k hk => h k (List.mem_cons_of_mem field.1 hk), List.cons_append]

/-- Fields whose keys go on increasing are put after those that are there. -/
theorem overlay_of_pairwise {fields written : Fields}
    (h : ((fields ++ written).map Prod.fst).Pairwise (· < ·)) :
    overlay fields written = fields ++ written := by
  induction written generalizing fields with
  | nil => exact (List.append_nil fields).symm
  | cons field rest ih =>
      -- The next name is larger than all before it, so the field goes to the end.
      have hlt : ∀ k ∈ fields.map Prod.fst, k < field.1 := by
        rw [List.map_append, List.pairwise_append] at h
        exact fun k hk => h.2.2 k hk field.1 List.mem_cons_self
      have hstep : overlay fields (field :: rest) =
          overlay (insert field.1 field.2 fields) rest := rfl
      have happend : fields ++ [field] ++ rest = fields ++ field :: rest := by
        rw [List.append_assoc, List.singleton_append]
      rw [hstep, insert_of_forall_lt hlt, ih (happend ▸ h), happend]

theorem lookup_eq_none_iff {key : String} {fields : Fields} :
    fields.lookup key = none ↔ key ∉ fields.map Prod.fst := by
  rw [List.lookup_eq_none_iff, List.mem_map]
  constructor
  · rintro h ⟨field, hfield, rfl⟩
    exact bne_iff_ne.1 (h field hfield) rfl
  · exact fun h field hfield => bne_iff_ne.2 fun heq => h ⟨field, hfield, heq.symm⟩

theorem mem_insert {key : String} {value : Json} {fields : Fields} {field : String × Json}
    (h : field ∈ insert key value fields) : field = (key, value) ∨ field ∈ fields := by
  induction fields with
  | nil => exact .inl (List.mem_singleton.1 h)
  | cons other rest ih =>
      rw [insert] at h
      split at h
      · exact (List.mem_cons.1 h).imp_right (List.mem_cons_of_mem other)
      · split at h
        · exact List.mem_cons.1 h
        · rcases List.mem_cons.1 h with rfl | h
          · exact .inr List.mem_cons_self
          · exact (ih h).imp_right (List.mem_cons_of_mem other)

theorem pairwise_insert {key : String} {fields : Fields}
    (h : (fields.map Prod.fst).Pairwise (· < ·)) (value : Json) :
    ((insert key value fields).map Prod.fst).Pairwise (· < ·) := by
  induction fields with
  | nil => exact List.pairwise_singleton _ _
  | cons field rest ih =>
      rw [List.map_cons, List.pairwise_cons] at h
      rw [insert]
      split
      · -- The name is there already.
        next heq => exact heq ▸ List.pairwise_cons.2 h
      · next hne =>
          split
          · -- The name comes before all others.
            next hlt =>
              refine List.pairwise_cons.2 ⟨?_, List.pairwise_cons.2 h⟩
              intro k hk
              rcases List.mem_cons.1 hk with rfl | hk
              · exact hlt
              · exact hlt.trans (h.1 k hk)
          · -- The name belongs further behind, and it stays behind the first one.
            next hnlt =>
              refine List.pairwise_cons.2 ⟨?_, ih h.2⟩
              intro k hk
              rcases List.mem_map.1 hk with ⟨other, hother, rfl⟩
              rcases mem_insert hother with rfl | hother
              · exact lt_of_le_of_ne (not_lt.1 hnlt) hne
              · exact h.1 _ (List.mem_map_of_mem hother)

theorem pairwise_overlay {fields : Fields} (h : (fields.map Prod.fst).Pairwise (· < ·))
    (written : Fields) : ((overlay fields written).map Prod.fst).Pairwise (· < ·) := by
  induction written generalizing fields with
  | nil => exact h
  | cons field rest ih => exact ih (pairwise_insert h field.2)

theorem mem_overlay {fields written : Fields} {field : String × Json}
    (h : field ∈ overlay fields written) : field ∈ fields ∨ field ∈ written := by
  induction written generalizing fields with
  | nil => exact .inl h
  | cons other rest ih =>
      rcases ih h with h | h
      · rcases mem_insert h with rfl | h
        · exact .inr List.mem_cons_self
        · exact .inl h
      · exact .inr (List.mem_cons_of_mem other h)

end Fields

namespace Json

mutual

theorem normal_of_ordered : ∀ {value : Json}, value.Ordered → value.normal = value
  | .null, _ | .bool _, _ | .number _, _ | .string _, _ => rfl
  | .array items, h => congrArg Json.array (normalItems_of_ordered h)
  | .object fields, h => by
      have hkeys : (([] ++ fields).map Prod.fst).Pairwise (· < ·) := h.1
      rw [normal, normalFields_of_ordered h.2, Fields.sorted, Fields.overlay_of_pairwise hkeys,
        List.nil_append]

theorem normalItems_of_ordered : ∀ {items : List Json}, ItemsOrdered items →
    normalItems items = items
  | [], _ => rfl
  | item :: rest, h => by
      rw [normalItems, normal_of_ordered h.1, normalItems_of_ordered h.2]

theorem normalFields_of_ordered : ∀ {fields : Fields}, FieldsOrdered fields →
    normalFields fields = fields
  | [], _ => rfl
  | (key, value) :: rest, h => by
      rw [normalFields, normal_of_ordered h.1, normalFields_of_ordered h.2]

end

mutual

/-- Sorting makes a value ordered, so that every value that was read is. -/
theorem ordered_normal : ∀ value : Json, value.normal.Ordered
  | .null | .bool _ | .number _ | .string _ => trivial
  | .array items => itemsOrdered_normalItems items
  | .object fields => by
      refine ⟨Fields.pairwise_overlay List.Pairwise.nil _, ?_⟩
      rw [fieldsOrdered_iff]
      intro field hfield
      rcases Fields.mem_overlay hfield with hnil | hmem
      · exact absurd hnil List.not_mem_nil
      · exact fieldsOrdered_iff.1 (fieldsOrdered_normalFields fields) field hmem

theorem itemsOrdered_normalItems : ∀ items : List Json, ItemsOrdered (normalItems items)
  | [] => trivial
  | item :: rest => ⟨ordered_normal item, itemsOrdered_normalItems rest⟩

theorem fieldsOrdered_normalFields : ∀ fields : Fields, FieldsOrdered (normalFields fields)
  | [] => trivial
  | (_, value) :: rest => ⟨ordered_normal value, fieldsOrdered_normalFields rest⟩

end

theorem normal_eq_self_iff {value : Json} : value.normal = value ↔ value.Ordered :=
  ⟨fun h => h ▸ ordered_normal value, normal_of_ordered⟩

end Json

/-! ## Records -/

/-- The fields that have a value to write, in order. -/
def Fields.written (parts : List (String × Option Json)) : Fields :=
  parts.flatMap fun (key, value) => Json.fieldIf key value

namespace Shape

variable {α β ρ : Type} {shapes : List (FieldShape ρ)}

/-- When nothing is left, the record is the one that was built, if no required name is missing. -/
theorem fromFields_nil_eq_ok_iff {strict : Bool} {met : List String} {r s : ρ} :
    fromFields shapes strict met r [] = .ok s ↔
      r = s ∧ ∀ field ∈ shapes, field.required = true → field.name ∈ met := by
  have hnone : (shapes.find? fun field => field.required && !met.contains field.name) = none ↔
      ∀ field ∈ shapes, field.required = true → field.name ∈ met := by
    rw [List.find?_eq_none]
    refine forall₂_congr fun field _ => ?_
    rw [Bool.and_eq_true, Bool.not_eq_true', not_and, Bool.not_eq_false, List.contains_iff_mem]
  rw [fromFields, ← hnone]
  cases shapes.find? fun field => field.required && !met.contains field.name with
  | none => simp only [Except.ok.injEq, and_true]
  | some field => simp only [reduceCtorEq, and_false]

/-- A field is passed over if the record does not know it, and otherwise put into the record, where
it may not have been met before. -/
theorem fromFields_cons_eq_ok_iff {strict : Bool} {met : List String} {key : String} {value : Json}
    {rest : Fields} {r s : ρ} :
    fromFields shapes strict met r ((key, value) :: rest) = .ok s ↔
      (strict = false ∧ (∀ field ∈ shapes, field.name ≠ key) ∧
        fromFields shapes strict met r rest = .ok s) ∨
      ∃ field mid, shapes.find? (fun field => field.name == key) = some field ∧ key ∉ met ∧
        field.put r value = .ok mid ∧ fromFields shapes strict (key :: met) mid rest = .ok s := by
  have hnone : shapes.find? (fun field => field.name == key) = none ↔
      ∀ field ∈ shapes, field.name ≠ key := by
    simp only [List.find?_eq_none, beq_iff_eq]
  rw [fromFields, ← hnone]
  cases shapes.find? fun field => field.name == key with
  | none => cases strict <;> simp only [Bool.false_eq_true, if_false, if_true, true_and,
      reduceCtorEq, false_and, exists_false, or_false]
  | some field =>
      simp only [reduceCtorEq, false_and, and_false, false_or, Option.some.injEq,
        List.contains_iff_mem, exists_and_left, exists_eq_left']
      -- A field of the record is read once; a second one under its name is refused.
      by_cases hmet : key ∈ met
      · simp only [hmet, if_true, reduceCtorEq, not_true_eq_false, false_and]
      · cases field.put r value with
        | error e => simp only [hmet, if_false, reduceCtorEq, false_and, exists_false, and_false]
        | ok mid => simp only [hmet, if_false, not_false_eq_true, true_and, Except.ok.injEq,
            exists_eq_left']

/-- The written fields take one record to another: each that is there is put into the record, and
each that is left out finds the record as it should be. -/
inductive Fills (shapes : List (FieldShape ρ)) : List (String × Option Json) → ρ → ρ → Prop
  | nil (r : ρ) : Fills shapes [] r r
  | absent (key : String) {parts : List (String × Option Json)} {r s : ρ} :
    Fills shapes parts r s → Fills shapes ((key, none) :: parts) r s
  | present {key : String} {value : Json} {parts : List (String × Option Json)} {r s t : ρ}
    {shape : FieldShape ρ} :
    shapes.find? (fun shape => shape.name == key) = some shape → shape.put r value = .ok s →
      Fills shapes parts s t → Fills shapes ((key, some value) :: parts) r t

theorem fromFields_of_fills {strict : Bool} {parts : List (String × Option Json)} {r s : ρ}
    (h : Fills shapes parts r s) {met : List String} (hnodup : (parts.map Prod.fst).Nodup)
    (hmet : ∀ key ∈ parts.map Prod.fst, key ∉ met)
    (hrequired : ∀ shape ∈ shapes, shape.required = true →
      shape.name ∈ met ∨ ∃ value, (shape.name, some value) ∈ parts) :
    fromFields shapes strict met r (Fields.written parts) = .ok s := by
  induction h generalizing met with
  | nil r =>
      refine fromFields_nil_eq_ok_iff.2 ⟨rfl, fun shape hshape hrequired' => ?_⟩
      refine (hrequired shape hshape hrequired').resolve_right ?_
      rintro ⟨value, hnil⟩
      exact absurd hnil List.not_mem_nil
  | @absent key parts r s _ ih =>
      rw [List.map_cons, List.nodup_cons] at hnodup
      refine ih hnodup.2 (fun k hk => hmet k (List.mem_cons_of_mem key hk)) ?_
      intro shape hshape hrequired'
      refine (hrequired shape hshape hrequired').imp_right ?_
      rintro ⟨value, hmem⟩
      rcases List.mem_cons.1 hmem with heq | hmem
      · exact absurd heq (by simp only [Prod.mk.injEq, reduceCtorEq, and_false, not_false_eq_true])
      · exact ⟨value, hmem⟩
  | @present key value parts r s t shape hfind hput _ ih =>
      rw [List.map_cons, List.nodup_cons] at hnodup
      refine fromFields_cons_eq_ok_iff.2
        (.inr ⟨shape, s, hfind, hmet key List.mem_cons_self, hput, ?_⟩)
      -- The name of the field is met now, and no later field has it.
      refine ih hnodup.2 ?_ ?_
      · intro k hk hmem
        rcases List.mem_cons.1 hmem with rfl | hmem
        · exact hnodup.1 hk
        · exact hmet k (List.mem_cons_of_mem key hk) hmem
      · intro shape' hshape hrequired'
        rcases hrequired shape' hshape hrequired' with hthere | ⟨value', hmem⟩
        · exact .inl (List.mem_cons_of_mem key hthere)
        · rcases List.mem_cons.1 hmem with heq | hmem
          · exact .inl ((Prod.mk.inj heq).1 ▸ List.mem_cons_self)
          · exact .inr ⟨value', hmem⟩

/-- The names of the fields that have to be written. -/
def requiredNames (shapes : List (FieldShape ρ)) : List String :=
  (shapes.filter FieldShape.required).map FieldShape.name

/-- A record is read from its written fields, if no name is written twice and every field that is
required is written. -/
theorem record_written {strict : Bool} {parts : List (String × Option Json)} {blank r : ρ}
    (h : Fills shapes parts blank r) (hnodup : (parts.map Prod.fst).Nodup)
    (hrequired : ∀ name ∈ requiredNames shapes, ∃ value, (name, some value) ∈ parts) :
    record strict blank shapes (.object (Fields.written parts)) = .ok r := by
  refine fromFields_of_fills h hnodup (fun _ _ => List.not_mem_nil) ?_
  intro shape hshape hrequired'
  exact .inr (hrequired shape.name
    (List.mem_map_of_mem (List.mem_filter.2 ⟨hshape, hrequired'⟩)))

/-! ## Fields of one kind -/

variable {key : String} {required : Bool} {parts : List (String × Option Json)} {r s : ρ}

/-- A field that is always written. -/
theorem fills_field {shape : Shape α} {set : ρ → α → ρ} {value : Json} {a : α}
    (hfind : shapes.find? (fun field => field.name == key) = some (.of key required shape set))
    (hread : shape value = .ok a) (h : Fills shapes parts (set r a) s) :
    Fills shapes ((key, some value) :: parts) r s :=
  .present hfind (map_eq_ok_iff.2 ⟨a, hread, rfl⟩) h

/-- A field that is written if it holds something, and nothing is what the record holds before. -/
theorem fills_optional {shape : Shape α} {set : ρ → Option α → ρ} {write : α → Json} {a : Option α}
    (hfind : shapes.find? (fun field => field.name == key) =
      some (.of key required (.optional shape) set))
    (hread : ∀ b, a = some b → shape.optional (write b) = .ok (some b)) (hblank : set r none = r)
    (h : Fills shapes parts (set r a) s) : Fills shapes ((key, a.map write) :: parts) r s := by
  cases a with
  | none =>
      rw [hblank] at h
      exact .absent key h
  | some b => exact fills_field hfind (hread b rfl) h

theorem list_map {shape : Shape α} {write : α → Json} {xs : List α}
    (h : ∀ x ∈ xs, shape (write x) = .ok x) : list shape (.array (xs.map write)) = .ok xs := by
  rw [list, mapM_eq_ok_iff, List.forall₂_map_left_iff, List.forall₂_same]
  exact h

theorem variant_string {named? : String → Option α} {name : String} {a : α}
    (h : named? name = some a) : variant named? (.string name) = .ok a := by
  rw [variant, h]
  rfl

/-- A list that is written if there is anything in it, and the record holds an empty one before. -/
theorem fills_nonempty {shape : Shape α} {set : ρ → List α → ρ} {write : α → Json} {xs : List α}
    (hfind : shapes.find? (fun field => field.name == key) =
      some (.of key required (list shape) set))
    (hread : ∀ x ∈ xs, shape (write x) = .ok x) (hblank : set r [] = r)
    (h : Fills shapes parts (set r xs) s) :
    Fills shapes
      ((key, if xs.isEmpty then none else some (.array (xs.map write))) :: parts) r s := by
  cases xs with
  | nil =>
      rw [hblank] at h
      exact .absent key h
  | cons x xs => exact fills_field hfind (list_map hread) h

/-! ## What was read -/

/-- Every item of a list was read from a value. -/
theorem exists_of_mem_list {shape : Shape α} {value : Json} {xs : List α} {x : α}
    (h : list shape value = .ok xs) (hx : x ∈ xs) : ∃ item, shape item = .ok x := by
  cases value with
  | array items =>
      rcases exists_of_mem_mapM h hx with ⟨item, -, hitem⟩
      exact ⟨item, hitem⟩
  | _ => exact absurd h (by simp only [list, reduceCtorEq, not_false_eq_true])

/-- What is so of a record stays so when any of the fields is put into it. -/
def Keeps (shapes : List (FieldShape ρ)) (P : ρ → Prop) : Prop :=
  ∀ shape ∈ shapes, ∀ r value s, P r → shape.put r value = .ok s → P s

section Keeps

variable {P : ρ → Prop}

theorem fromFields_keeps (hkeeps : Keeps shapes P) {strict : Bool} {met : List String} {r s : ρ}
    {fields : Fields} (hr : P r) (h : fromFields shapes strict met r fields = .ok s) : P s := by
  induction fields generalizing met r with
  | nil => exact (fromFields_nil_eq_ok_iff.1 h).1 ▸ hr
  | cons field rest ih =>
      rcases fromFields_cons_eq_ok_iff.1 h with ⟨-, -, hrest⟩ | ⟨shape, mid, hfind, -, hput, hrest⟩
      · exact ih hr hrest
      · exact ih (hkeeps shape (List.mem_of_find?_eq_some hfind) _ _ _ hr hput) hrest

theorem fromItems_keeps (hkeeps : Keeps shapes P) {r s : ρ} {items : List Json} (hr : P r)
    (h : fromItems shapes r items = .ok s) : P s := by
  induction shapes generalizing r items with
  | nil =>
      -- A record may also be written as a list, in the order of its fields.
      cases items with
      | nil => exact Except.ok.inj h ▸ hr
      | cons item rest => exact absurd h (by simp only [fromItems, reduceCtorEq, not_false_eq_true])
  | cons shape shapes ih =>
      have hrest : Keeps shapes P := fun shape' hshape =>
        hkeeps shape' (List.mem_cons_of_mem shape hshape)
      cases items with
      | nil =>
          rw [fromItems] at h
          split at h
          · exact absurd h (by simp only [reduceCtorEq, not_false_eq_true])
          · exact ih hrest hr h
      | cons item rest =>
          rw [fromItems] at h
          split at h
          · exact absurd h (by simp only [reduceCtorEq, not_false_eq_true])
          · next hput => exact ih hrest (hkeeps shape List.mem_cons_self _ _ _ hr hput) h

/-- What is so of the blank record, and stays so field by field, is so of every record that was
read, from an object or from an array. -/
theorem record_keeps (hkeeps : Keeps shapes P) {strict : Bool} {blank r : ρ} {value : Json}
    (hblank : P blank) (h : record strict blank shapes value = .ok r) : P r := by
  cases value with
  | object fields => exact fromFields_keeps hkeeps hblank h
  | array items => exact fromItems_keeps hkeeps hblank h
  | _ => exact absurd h (by simp only [record, reduceCtorEq, not_false_eq_true])

end Keeps

/-! ## Records by the names of their fields -/

variable {name : String} {shape : Shape α} {get : ρ → α} {strict : Bool} {met : List String}
  {blank : ρ} {fields : Fields}

/-- The value of a field has a place in the record: what is put under its name is read and stands
there, and what is put under another name leaves it alone. -/
structure Places (shapes : List (FieldShape ρ)) (name : String) (shape : Shape α) (get : ρ → α) :
    Prop where
  known : ∃ field ∈ shapes, field.name = name
  put : ∀ field ∈ shapes, field.name = name → ∀ r value s, field.put r value = .ok s →
    shape value = .ok (get s)
  frame : ∀ field ∈ shapes, field.name ≠ name → ∀ r value s, field.put r value = .ok s →
    get s = get r

theorem find?_name {field : FieldShape ρ}
    (h : shapes.find? (fun field => field.name == name) = some field) :
    field ∈ shapes ∧ field.name = name := by
  have hname := List.find?_some h
  exact ⟨List.mem_of_find?_eq_some h, beq_iff_eq.1 hname⟩

theorem fromFields_places (h : Places shapes name shape get)
    (hdistinct : (fields.map Prod.fst).Nodup)
    (hread : fromFields shapes strict met r fields = .ok s) :
    (∀ value, fields.lookup name = some value → shape value = .ok (get s)) ∧
      (fields.lookup name = none → get s = get r) := by
  induction fields generalizing met r with
  | nil =>
      have hsame : r = s := (fromFields_nil_eq_ok_iff.1 hread).1
      refine ⟨fun value hvalue => ?_, fun _ => congrArg get hsame.symm⟩
      exact absurd hvalue (by simp only [List.lookup_nil, reduceCtorEq, not_false_eq_true])
  | cons field rest ih =>
      rcases field with ⟨key, value⟩
      rw [List.map_cons, List.nodup_cons] at hdistinct
      rw [Fields.lookup_cons]
      -- No field of the record has the name that was met, or one does and takes the value.
      rcases fromFields_cons_eq_ok_iff.1 hread with
        ⟨-, hunknown, hrest⟩ | ⟨field, mid, hfind, -, hput, hrest⟩
      · rcases h.known with ⟨known, hknown, hname⟩
        rw [if_neg (hname ▸ hunknown known hknown)]
        exact ih hdistinct.2 hrest
      · rcases find?_name hfind with ⟨hfield, hkey⟩
        rcases ih hdistinct.2 hrest with ⟨hthere, habsent⟩
        -- Under this name the value is placed, and no later field comes to replace it.
        by_cases heq : name = key
        · subst heq
          rw [if_pos rfl]
          refine ⟨fun found hfound => ?_, fun hnone => nomatch hnone⟩
          rw [habsent (Fields.lookup_eq_none_iff.2 hdistinct.1), ← Option.some.inj hfound]
          exact h.put field hfield hkey r value mid hput
        · -- Any other field leaves the place alone.
          rw [if_neg heq, ← h.frame field hfield (hkey ▸ Ne.symm heq) r value mid hput]
          exact ⟨hthere, habsent⟩

/-- In the place of a field stands what was read under its name, or what the blank record has there
if there is no such field. -/
theorem record_places (h : Places shapes name shape get) (hdistinct : (fields.map Prod.fst).Nodup)
    (hread : record strict blank shapes (.object fields) = .ok s) :
    (∀ value, fields.lookup name = some value → shape value = .ok (get s)) ∧
      (fields.lookup name = none → get s = get blank) :=
  fromFields_places h hdistinct hread

/-- Whether a field takes a value does not depend on the record into which it is put. -/
def Uniform (shapes : List (FieldShape ρ)) : Prop :=
  ∀ field ∈ shapes, ∀ r r' value s, field.put r value = .ok s → ∃ s', field.put r' value = .ok s'

theorem exists_put_of_iff {set : ρ → α → ρ} {value : Json} :
    (∃ s, (FieldShape.of name required shape set).put r value = .ok s) ↔
      ∃ a, shape value = .ok a := by
  constructor
  · rintro ⟨s, hs⟩
    rcases map_eq_ok_iff.1 hs with ⟨a, ha, -⟩
    exact ⟨a, ha⟩
  · rintro ⟨a, ha⟩
    exact ⟨set r a, map_eq_ok_iff.2 ⟨a, ha, rfl⟩⟩

theorem uniform_nil : Uniform ([] : List (FieldShape ρ)) := nofun

theorem uniform_cons_of {set : ρ → α → ρ} (h : Uniform shapes) :
    Uniform (.of name required shape set :: shapes) := by
  intro field hfield r r' value s hs
  rcases List.mem_cons.1 hfield with rfl | hfield
  · exact exists_put_of_iff.2 (exists_put_of_iff.1 ⟨s, hs⟩)
  · exact h field hfield r r' value s hs

/-- The fields that are left suit a record some of whose names were met: each field that it knows
takes its value, and each that it requires is among them or was met. -/
structure Suits (shapes : List (FieldShape ρ)) (blank : ρ) (met : List String) (fields : Fields) :
    Prop where
  takes : ∀ field ∈ shapes, ∀ value, fields.lookup field.name = some value →
    ∃ s, field.put blank value = .ok s
  complete : ∀ field ∈ shapes, field.required = true →
    field.name ∈ met ∨ (fields.lookup field.name).isSome = true

section Suits

variable {key : String} {value : Json} {rest : Fields}

theorem suits_nil : Suits [] blank met fields := ⟨nofun, nofun⟩

theorem suits_cons_of {set : ρ → α → ρ} :
    Suits (.of name required shape set :: shapes) blank met fields ↔
      ((∀ value, fields.lookup name = some value → ∃ a, shape value = .ok a) ∧
        (required = true → name ∈ met ∨ (fields.lookup name).isSome = true)) ∧
      Suits shapes blank met fields := by
  constructor
  · intro h
    refine ⟨⟨fun value hvalue => ?_, h.complete _ List.mem_cons_self⟩,
      fun field hfield => h.takes field (List.mem_cons_of_mem _ hfield),
      fun field hfield => h.complete field (List.mem_cons_of_mem _ hfield)⟩
    exact exists_put_of_iff.1 (h.takes _ List.mem_cons_self value hvalue)
  · rintro ⟨⟨htakes, hcomplete⟩, h⟩
    refine ⟨fun field hfield value hvalue => ?_, fun field hfield hrequired => ?_⟩
    · -- The first field has its own condition, and the others keep theirs.
      rcases List.mem_cons.1 hfield with rfl | hfield
      · exact exists_put_of_iff.2 (htakes value hvalue)
      · exact h.takes field hfield value hvalue
    · rcases List.mem_cons.1 hfield with rfl | hfield
      · exact hcomplete hrequired
      · exact h.complete field hfield hrequired

/-- A field that the record does not know is passed over. -/
theorem suits_cons_of_unknown (hunknown : ∀ field ∈ shapes, field.name ≠ key) :
    Suits shapes blank met ((key, value) :: rest) ↔ Suits shapes blank met rest := by
  -- No field looks under the name, so it takes nothing from the first value.
  have hlookup : ∀ field ∈ shapes,
      List.lookup field.name ((key, value) :: rest) = rest.lookup field.name := by
    intro field hfield
    rw [Fields.lookup_cons, if_neg (hunknown field hfield)]
  constructor
  · exact fun h => ⟨fun field hfield found hfound =>
      h.takes field hfield found (hlookup field hfield ▸ hfound),
      fun field hfield hrequired => hlookup field hfield ▸ h.complete field hfield hrequired⟩
  · exact fun h => ⟨fun field hfield found hfound =>
      h.takes field hfield found (hlookup field hfield ▸ hfound),
      fun field hfield hrequired => (hlookup field hfield).symm ▸
        h.complete field hfield hrequired⟩

/-- A field that the record knows is met when it takes its value. -/
theorem suits_cons_of_known (hnames : (shapes.map FieldShape.name).Nodup)
    (hnew : key ∉ rest.map Prod.fst) {known : FieldShape ρ} (hknown : known ∈ shapes)
    (hkey : known.name = key) :
    Suits shapes blank met ((key, value) :: rest) ↔
      (∃ s, known.put blank value = .ok s) ∧ Suits shapes blank (key :: met) rest := by
  constructor
  · intro h
    refine ⟨h.takes known hknown value ?_, fun field hfield found hfound => ?_,
      fun field hfield hrequired => ?_⟩
    · rw [Fields.lookup_cons, if_pos hkey]
    · -- Another name is asked for, since this one is not there again.
      have hne : field.name ≠ key := by
        rintro rfl
        exact absurd hfound (Fields.lookup_eq_none_iff.2 hnew ▸ nofun)
      refine h.takes field hfield found ?_
      rw [Fields.lookup_cons, if_neg hne, hfound]
    · -- A field that was needed is met now, or is needed of the rest.
      by_cases heq : field.name = key
      · exact .inl (heq ▸ List.mem_cons_self)
      · have hcomplete := h.complete field hfield hrequired
        rw [Fields.lookup_cons, if_neg heq] at hcomplete
        exact hcomplete.imp_left (List.mem_cons_of_mem key)
  · rintro ⟨htakes, h⟩
    refine ⟨fun field hfield found hfound => ?_, fun field hfield hrequired => ?_⟩
    · rw [Fields.lookup_cons] at hfound
      by_cases heq : field.name = key
      · -- The names of the fields are distinct, so this is the one that took the value.
        rw [if_pos heq] at hfound
        rw [List.inj_on_of_nodup_map hnames hfield hknown (heq.trans hkey.symm),
          ← Option.some.inj hfound]
        exact htakes
      · rw [if_neg heq] at hfound
        exact h.takes field hfield found hfound
    · rw [Fields.lookup_cons]
      by_cases heq : field.name = key
      · rw [if_pos heq]
        exact .inr rfl
      · rw [if_neg heq]
        exact (h.complete field hfield hrequired).imp_left fun hmem =>
          (List.mem_cons.1 hmem).resolve_left heq

end Suits

theorem exists_fromFields_iff (huniform : Uniform shapes)
    (hnames : (shapes.map FieldShape.name).Nodup) (hdistinct : (fields.map Prod.fst).Nodup)
    (hmet : ∀ key ∈ fields.map Prod.fst, key ∉ met) :
    (∃ s, fromFields shapes false met r fields = .ok s) ↔ Suits shapes blank met fields := by
  induction fields generalizing met r with
  | nil =>
      simp only [fromFields_nil_eq_ok_iff, exists_and_right, exists_eq', true_and]
      refine ⟨fun h => ⟨nofun, fun field hfield hrequired => .inl (h field hfield hrequired)⟩, ?_⟩
      exact fun h field hfield hrequired => (h.complete field hfield hrequired).resolve_right nofun
  | cons field rest ih =>
      rcases field with ⟨key, value⟩
      rw [List.map_cons, List.nodup_cons] at hdistinct
      have hrest : ∀ k ∈ rest.map Prod.fst, k ∉ met := fun k hk =>
        hmet k (List.mem_cons_of_mem key hk)
      have hmet' : ∀ k ∈ rest.map Prod.fst, k ∉ key :: met := fun k hk hmem =>
        (List.mem_cons.1 hmem).elim (fun heq => hdistinct.1 (heq ▸ hk)) (hrest k hk)
      constructor
      · rintro ⟨s, hs⟩
        rcases fromFields_cons_eq_ok_iff.1 hs with
          ⟨-, hunknown, hs⟩ | ⟨known, mid, hfind, -, hput, hs⟩
        · exact (suits_cons_of_unknown hunknown).2 ((ih hdistinct.2 hrest).1 ⟨s, hs⟩)
        · rcases find?_name hfind with ⟨hknown, hkey⟩
          exact (suits_cons_of_known hnames hdistinct.1 hknown hkey).2
            ⟨huniform known hknown r blank value mid hput, (ih hdistinct.2 hmet').1 ⟨s, hs⟩⟩
      · intro h
        cases hfind : shapes.find? fun field => field.name == key with
        | none =>
            have hunknown : ∀ field ∈ shapes, field.name ≠ key := fun field hfield heq =>
              List.find?_eq_none.1 hfind field hfield (beq_iff_eq.2 heq)
            rcases (ih hdistinct.2 hrest).2 ((suits_cons_of_unknown hunknown).1 h) with ⟨s, hs⟩
            exact ⟨s, fromFields_cons_eq_ok_iff.2 (.inl ⟨rfl, hunknown, hs⟩)⟩
        | some known =>
            rcases find?_name hfind with ⟨hknown, hkey⟩
            rcases (suits_cons_of_known hnames hdistinct.1 hknown hkey).1 h with ⟨⟨s, hs⟩, h⟩
            -- The value was taken by the blank record, and here another one has to take it.
            rcases huniform known hknown blank r value s hs with ⟨mid, hmid⟩
            rcases (ih hdistinct.2 hmet').2 h with ⟨t, ht⟩
            exact ⟨t, fromFields_cons_eq_ok_iff.2
              (.inr ⟨known, mid, hfind, hmet key List.mem_cons_self, hmid, ht⟩)⟩

/-- A record is read from an object whose keys are distinct if each field that it knows takes its
value, and each that it requires is there. -/
theorem exists_record_iff (huniform : Uniform shapes)
    (hnames : (shapes.map FieldShape.name).Nodup) (hdistinct : (fields.map Prod.fst).Nodup) :
    (∃ s, record false blank shapes (.object fields) = .ok s) ↔ Suits shapes blank [] fields :=
  exists_fromFields_iff huniform hnames hdistinct fun _ _ => List.not_mem_nil

end Shape

end GridQuery
