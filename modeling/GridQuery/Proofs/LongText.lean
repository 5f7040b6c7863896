import GridQuery.Proofs.ComparisonLaws

/-!
# Forms of Long Texts

What the comparisons of a long text depend on.

A long text is stored as a string or as an object that holds one, and in either case the line feeds
around it do not count. So there are several forms of one text, and to almost every question they
give the same answer, as it is asked of the text without its line feeds.

The exception is whether the cell is blank, which is what comparing it with the empty value asks.
This is told from the stored form alone. An object is never blank, whatever text it holds, and a
string of line feeds is not, although nothing is left of it. The forms of a text therefore give
one answer to every question only if something is left of the text.

## Main definitions

* `Cell.longTextAnswer`: What a long text says to a comparison with a value.
* `Cell.FormsAgree`: A string, an object that holds it and what is left of it say the same.

## Theorems

* `Cell.isEmpty_stripLines`, `Cell.stripLines_stripLines`: What is left of a text.
* `Cell.longTextAnswer_congr`: Questions that are asked of the text.
* `Cell.longTextAnswer_empty`: The question that is asked of the form.
* `Cell.formsAgree_of_asked`, `Cell.formsAgree_empty_iff`: What the forms say to each of them.
* `Cell.longText_forms`: When the forms of a text agree.
* `Cell.not_longText_forms`: Texts of which they do not.
-/

namespace GridQuery

namespace Cell

theorem stripLines_stripLines (s : String) : stripLines (stripLines s) = stripLines s := by
  rw [stripLines, stripLines, String.toList_ofList, Text.dropAround_dropAround]

/-- Nothing is left of a text of line feeds only. -/
theorem isEmpty_stripLines (s : String) :
    (stripLines s).isEmpty = s.toList.all (· == '\n') := by
  rw [Bool.eq_iff_iff, String.isEmpty_iff, stripLines, ← String.toList_inj, String.toList_ofList]
  exact Text.dropAround_eq_nil_iff

theorem text?_string (s : String) :
    text? ⟨.longText, some (.string s)⟩ = some (stripLines s) := rfl

theorem text?_object {s : String} {fields : List (String × Json)}
    (h : fields.lookup "text" = some (.string s)) :
    text? ⟨.longText, some (.object fields)⟩ = some (stripLines s) := by
  simp only [text?, if_true, h, Option.bind_some, Json.string?, Option.map_some]

/-! ## What a question is asked of -/

theorem compare_text {cell : Cell} {comparison : Comparison} (hfamily : cell.kind.family = .text)
    (hsupports : Family.text.supports comparison = true) (input : Input) :
    compare cell comparison input = compareText cell comparison input := by
  simp only [compare, hfamily, hsupports, Bool.not_true, Bool.false_eq_true, if_false]

/-- What a long text says to a comparison with a value, or why it has no answer. -/
def longTextAnswer (raw : Json) (comparison : Comparison) (value : String) :
    Except QueryError Bool := do
  let input ← Input.coerce .longText value
  compare ⟨.longText, some raw⟩ comparison input

variable {raw raw' : Json} {comparison : Comparison} {value : String}

theorem longTextAnswer_eq (raw : Json) (comparison : Comparison) (value : String) :
    longTextAnswer raw comparison value = compare ⟨.longText, some raw⟩ comparison
      (if value.isEmpty then .blank else .text value) := by
  rw [longTextAnswer, Input.coerce_of_text rfl]
  rfl

/-- An ordering is refused, a pattern is looked for in the text, and a value that is not empty is
compared with the text. -/
theorem longTextAnswer_congr
    (hasked : value ≠ "" ∨ comparison ≠ .equal ∧ comparison ≠ .unequal)
    (htext : text? ⟨.longText, some raw⟩ = text? ⟨.longText, some raw'⟩) :
    longTextAnswer raw comparison value = longTextAnswer raw' comparison value := by
  rw [longTextAnswer_eq, longTextAnswer_eq]
  cases comparison with
  | greater | greaterEqual | less | lessEqual => rfl
  | like =>
      -- The empty pattern is blank and refused, and any other is matched with the text.
      rw [compare_text rfl rfl, compare_text rfl rfl]
      cases (if value.isEmpty then Input.blank else .text value) with
      | text pattern => simp only [compareText, htext]
      | blank | number _ | timestamp _ | bool _ => rfl
  | equal | unequal =>
      have hempty : value.isEmpty = false := by
        refine String.isEmpty_eq_false_iff.mpr (hasked.resolve_right ?_)
        decide
      rw [hempty, if_neg Bool.false_ne_true, compare_text rfl rfl, compare_text rfl rfl]
      simp only [compareText, htext]

/-- The empty value asks whether the cell is blank. -/
theorem longTextAnswer_empty (raw : Json) :
    longTextAnswer raw .equal "" = .ok (isBlank ⟨.longText, some raw⟩) ∧
      longTextAnswer raw .unequal "" = .ok !isBlank ⟨.longText, some raw⟩ := by
  have hequal : longTextAnswer raw .equal "" = .ok (isBlank ⟨.longText, some raw⟩) := by
    have hblank : ("" : String).isEmpty = true := rfl
    rw [longTextAnswer_eq, hblank, if_pos rfl, compare_text rfl rfl]
    simp only [compareText, beq_self_eq_true, beq_true]
  refine ⟨hequal, ?_⟩
  rw [longTextAnswer_eq, compare_unequal, ← longTextAnswer_eq, hequal]
  rfl

theorem longTextAnswer_empty_congr (hasked : comparison = .equal ∨ comparison = .unequal) :
    longTextAnswer raw comparison "" = longTextAnswer raw' comparison "" ↔
      isBlank ⟨.longText, some raw⟩ = isBlank ⟨.longText, some raw'⟩ := by
  rcases hasked with rfl | rfl
  · rw [(longTextAnswer_empty raw).1, (longTextAnswer_empty raw').1, Except.ok.injEq]
  · rw [(longTextAnswer_empty raw).2, (longTextAnswer_empty raw').2, Except.ok.injEq,
      Bool.not_inj_iff]

/-! ## The forms of a text -/

/-- A string, an object that holds it and the string without the line feeds around it say the same
to a comparison with a value. -/
def FormsAgree (s : String) (fields : List (String × Json)) (comparison : Comparison)
    (value : String) : Prop :=
  longTextAnswer (.object fields) comparison value = longTextAnswer (.string s) comparison value ∧
    longTextAnswer (.string (stripLines s)) comparison value =
      longTextAnswer (.string s) comparison value

theorem isBlank_string (s : String) : isBlank ⟨.longText, some (.string s)⟩ = s.isEmpty := rfl

theorem isBlank_object (fields : List (String × Json)) :
    isBlank ⟨.longText, some (.object fields)⟩ = false := rfl

section Forms

variable {s : String} {fields : List (String × Json)}

theorem formsAgree_of_asked (hfields : fields.lookup "text" = some (.string s))
    (hasked : value ≠ "" ∨ comparison ≠ .equal ∧ comparison ≠ .unequal) :
    FormsAgree s fields comparison value := by
  refine ⟨longTextAnswer_congr hasked (text?_object hfields), longTextAnswer_congr hasked ?_⟩
  rw [text?_string, text?_string, stripLines_stripLines]

/-- An object is never blank, so the forms agree if no other form is. -/
theorem formsAgree_empty_iff (hasked : comparison = .equal ∨ comparison = .unequal) :
    FormsAgree s fields comparison "" ↔ ∃ c ∈ s.toList, c ≠ '\n' := by
  have hleft : s.toList.all (· == '\n') = false ↔ ∃ c ∈ s.toList, c ≠ '\n' := by
    simp only [List.all_eq_false, beq_iff_eq, ne_eq]
  rw [FormsAgree, longTextAnswer_empty_congr hasked, longTextAnswer_empty_congr hasked,
    isBlank_object, isBlank_string, isBlank_string, isEmpty_stripLines, ← hleft]
  -- The form with fields is never blank, so the other two have to be filled as well.
  constructor
  · rintro ⟨hs, hsame⟩
    exact hsame.trans hs.symm
  · intro hall
    have hs : s.isEmpty = false := by
      refine String.isEmpty_eq_false_iff.mpr ?_
      rintro rfl
      exact absurd hall (by decide)
    exact ⟨hs.symm, hall.trans hs.symm⟩

end Forms

/-- The forms of a text agree about everything but whether the cell is blank, and about that if
something is left of the text. Otherwise the object is not blank, the string is blank if it is empty
already, and what is left of it is blank. -/
theorem longText_forms {s : String} {fields : List (String × Json)}
    (hfields : fields.lookup "text" = some (.string s)) :
    (∀ comparison value, FormsAgree s fields comparison value ↔
      value ≠ "" ∨ (comparison ≠ .equal ∧ comparison ≠ .unequal) ∨ ∃ c ∈ s.toList, c ≠ '\n') ∧
    longTextAnswer (.string s) .equal "" = .ok s.isEmpty ∧
    longTextAnswer (.object fields) .equal "" = .ok false ∧
    longTextAnswer (.string (stripLines s)) .equal "" = .ok (s.toList.all (· == '\n')) := by
  refine ⟨fun comparison value => ?_, ?_, ?_, ?_⟩
  · rw [← or_assoc]
    by_cases hasked : value ≠ "" ∨ comparison ≠ .equal ∧ comparison ≠ .unequal
    · exact iff_of_true (formsAgree_of_asked hfields hasked) (.inl hasked)
    · -- All that is left to ask is whether the cell is blank.
      rw [or_iff_right hasked]
      rw [not_or, not_ne_iff, not_and_or, not_ne_iff, not_ne_iff] at hasked
      rcases hasked with ⟨rfl, hcomparison⟩
      exact formsAgree_empty_iff hcomparison
  · -- What each form answers by itself: the string as it is, the fields, and the string without its
    -- lines.
    rw [(longTextAnswer_empty _).1, isBlank_string]
  · rw [(longTextAnswer_empty _).1, isBlank_object]
  · rw [(longTextAnswer_empty _).1, isBlank_string, isEmpty_stripLines]

/-- A greeting between line feeds has one answer to every question. -/
theorem longText_forms_greeting :
    let s : String := "\nhello\n"
    let fields : List (String × Json) := [("id", .number (.int 1)), ("text", .string s)]
    fields.lookup "text" = some (.string s) ∧
      (∀ comparison value, FormsAgree s fields comparison value) ∧
      longTextAnswer (.object fields) .equal "" = .ok false := by
  intro s fields
  have hfields : fields.lookup "text" = some (.string s) := by decide
  rcases longText_forms hfields with ⟨hagree, -, hblank, -⟩
  have hleft : ∃ c ∈ s.toList, c ≠ '\n' := ⟨'h', by decide, by decide⟩
  exact ⟨hfields, fun comparison value => (hagree comparison value).mpr (.inr (.inr hleft)), hblank⟩

/-- The empty text is blank as a string and not in an object, and a line feed is not blank although
nothing is left of it. -/
theorem not_longText_forms :
    longTextAnswer (.object [("text", .string "")]) .equal "" ≠
        longTextAnswer (.string "") .equal "" ∧
      longTextAnswer (.string (stripLines "\n")) .equal "" ≠
        longTextAnswer (.string "\n") .equal "" := by
  decide

end Cell

end GridQuery
