import GridQuery.Proofs.LongText
import GridQuery.Proofs.ReadableHeader

/-!
# Long Texts in Readable Rows

Whether a condition says the same of a long text before and after a change is made readable.

A long text is stored as a string or as an object that holds one, and the comparisons read both
forms. The readable form of a change reads only the second. What it makes of an object is the string
in it, which is another form of the same text, so that all questions that are asked of the text keep
their answers; the one that is asked of the stored form, whether the cell is blank, keeps its answer
unless the text is empty. What it makes of a string is the empty string. Then the text is gone, and
a question keeps its answer only if it cannot tell the text from the empty one.

The column may stand anywhere in the list, between any others, as long as it is the one that the
cell belongs to. What its cell is written as is found in the readable form if no column of another
key has its name, as otherwise another cell may be written over it.

## Main definitions

* `Json.HoldsText`: The two forms of a long text.
* `Cell.TakesForEmpty`: The questions that cannot tell a string from the empty one.
* `Cell.AnswerAlike`: Two values say the same to every question.

## Theorems

* `Cell.longTextAnswer_emptied_iff`, `Cell.answerAlike_emptied_iff`: What a string that is emptied
  still answers as before, and when that is everything.
* `Cell.longTextAnswer_taken_out_iff`, `Cell.answerAlike_taken_out_iff`: The same of a string that
  is taken out of an object.
* `Change.readable_longText_answers`: The same of the cells of a readable change.
* `Change.not_readable_longText_answers`: A question that it does not.
-/

namespace GridQuery

/-- A value holds a text as a long text does: it is a string, or an object with a string under the
key of texts. -/
inductive Json.HoldsText : Json → String → Prop
  | string (s : String) : HoldsText (.string s) s
  | object {parts : Fields} {s : String} (htext : parts.lookup "text" = some (.string s)) :
    HoldsText (.object parts) s

namespace Cell

/-- A question has one answer for a stored string and for the empty string. The empty value asks
whether the cell is blank, any other whether it is the text, a pattern whether the text matches;
and orderings are refused. -/
def TakesForEmpty (s : String) : Comparison → String → Prop
  | .equal, value | .unequal, value => if value = "" then s = "" else value ≠ stripLines s
  | .like, value => value = "" ∨
      Pattern.matches? (stripLines s).toList value.toList = Pattern.matches? [] value.toList
  | .greater, _ | .greaterEqual, _ | .less, _ | .lessEqual, _ => True

/-- Two values say the same to every comparison with every value. -/
def AnswerAlike (raw raw' : Json) : Prop :=
  ∀ comparison value, longTextAnswer raw comparison value = longTextAnswer raw' comparison value

variable {s value : String} {comparison : Comparison}

theorem longTextAnswer_refused (hrefused : Family.text.supports comparison = false)
    (raw raw' : Json) :
    longTextAnswer raw comparison value = longTextAnswer raw' comparison value := by
  have hanswer : ∀ raw, longTextAnswer raw comparison value =
      .error (.unsupportedComparison .longText comparison) := by
    intro raw
    rw [longTextAnswer_eq]
    exact if_pos (congrArg Bool.not hrefused)
  rw [hanswer, hanswer]

/-- The empty pattern is refused. -/
theorem longTextAnswer_like_empty (raw raw' : Json) :
    longTextAnswer raw .like "" = longTextAnswer raw' .like "" := rfl

theorem longTextAnswer_like {raw : Json} {text : String} (hvalue : value ≠ "")
    (htext : text? ⟨.longText, some raw⟩ = some text) :
    longTextAnswer raw .like value = (Pattern.matches? text.toList value.toList).elim
      (.error (.invalidLikePattern value)) .ok := by
  rw [longTextAnswer_eq, String.isEmpty_eq_false_iff.mpr hvalue, if_neg Bool.false_ne_true,
    compare_text rfl rfl]
  simp only [compareText, htext, Option.getD_some]
  cases Pattern.matches? text.toList value.toList <;> rfl

theorem longTextAnswer_text {raw : Json} {text : String} (hvalue : value ≠ "")
    (hcomparison : comparison = .equal ∨ comparison = .unequal)
    (htext : text? ⟨.longText, some raw⟩ = some text) :
    longTextAnswer raw comparison value = .ok ((text == value) == (comparison == .equal)) := by
  rw [longTextAnswer_eq, String.isEmpty_eq_false_iff.mpr hvalue, if_neg Bool.false_ne_true]
  rcases hcomparison with rfl | rfl <;> rw [compare_text rfl rfl] <;>
    simp only [compareText, htext, Option.some_beq_some]

/-- What a string that is emptied still answers as before. -/
theorem longTextAnswer_emptied_iff :
    longTextAnswer (.string "") comparison value = longTextAnswer (.string s) comparison value ↔
      TakesForEmpty s comparison value := by
  have hnothing : text? ⟨.longText, some (.string "")⟩ = some "" := rfl
  -- Equality asks for blanks if the value is empty, and else compares the texts.
  have hequality : comparison = .equal ∨ comparison = .unequal →
      (longTextAnswer (.string "") comparison value = longTextAnswer (.string s) comparison value ↔
        if value = "" then s = "" else value ≠ stripLines s) := by
    intro hcomparison
    split
    · next hvalue =>
        subst hvalue
        rw [longTextAnswer_empty_congr hcomparison, isBlank_string, isBlank_string, eq_comm]
        exact String.isEmpty_iff
    · next hvalue =>
        have hother : ("" == value) = false := beq_eq_false_iff_ne.mpr (Ne.symm hvalue)
        have hinjective : ∀ a b c : Bool, (a == c) = (b == c) ↔ a = b := by decide
        rw [longTextAnswer_text hvalue hcomparison hnothing,
          longTextAnswer_text hvalue hcomparison (text?_string s), Except.ok.injEq, hother,
          hinjective, eq_comm, beq_eq_false_iff_ne, ne_comm]
  cases comparison with
  | equal => exact hequality (.inl rfl)
  | unequal => exact hequality (.inr rfl)
  -- Orders are refused for every text.
  | greater | greaterEqual | less | lessEqual =>
      exact iff_of_true (longTextAnswer_refused rfl _ _) trivial
  | like =>
      by_cases hvalue : value = ""
      · subst hvalue
        exact iff_of_true (longTextAnswer_like_empty _ _) (.inl rfl)
      · -- Both texts are matched against the pattern, and the two outcomes are compared.
        have hempty : ("" : String).toList = [] := rfl
        rw [TakesForEmpty, or_iff_right hvalue, longTextAnswer_like hvalue hnothing, hempty,
          longTextAnswer_like hvalue (text?_string s), eq_comm]
        cases Pattern.matches? (stripLines s).toList value.toList <;>
          cases Pattern.matches? [] value.toList <;>
          simp only [Option.elim_none, Option.elim_some, reduceCtorEq, Except.ok.injEq,
            Option.some.injEq]

/-- Every text but the empty one can be told from it. -/
theorem answerAlike_emptied_iff : AnswerAlike (.string "") (.string s) ↔ s = "" := by
  refine ⟨fun hall => ?_, ?_⟩
  · have hblank := longTextAnswer_emptied_iff.mp (hall .equal "")
    rwa [TakesForEmpty, if_pos rfl] at hblank
  · rintro rfl comparison value
    rfl

/-- What a string that is taken out of an object answers as the object did. -/
theorem longTextAnswer_taken_out_iff {parts : Fields}
    (htext : parts.lookup "text" = some (.string s)) :
    longTextAnswer (.string s) comparison value = longTextAnswer (.object parts) comparison value ↔
      value ≠ "" ∨ (comparison ≠ .equal ∧ comparison ≠ .unequal) ∨ s ≠ "" := by
  rw [← or_assoc]
  by_cases hasked : value ≠ "" ∨ comparison ≠ .equal ∧ comparison ≠ .unequal
  · have hsame : text? ⟨.longText, some (.string s)⟩ = text? ⟨.longText, some (.object parts)⟩ := by
      rw [text?_string, text?_object htext]
    exact iff_of_true (longTextAnswer_congr hasked hsame) (.inl hasked)
  · -- Only whether the cell is blank is left, and the fields are never blank.
    rw [or_iff_right hasked]
    rw [not_or, not_ne_iff, not_and_or, not_ne_iff, not_ne_iff] at hasked
    rcases hasked with ⟨rfl, hcomparison⟩
    rw [longTextAnswer_empty_congr hcomparison, isBlank_string, isBlank_object]
    exact String.isEmpty_eq_false_iff

theorem answerAlike_taken_out_iff {parts : Fields}
    (htext : parts.lookup "text" = some (.string s)) :
    AnswerAlike (.string s) (.object parts) ↔ s ≠ "" := by
  refine ⟨fun hall => ?_, fun hs comparison value => ?_⟩
  · rcases (longTextAnswer_taken_out_iff htext).mp (hall .equal "") with hne | ⟨hne, -⟩ | hs
    · exact absurd rfl hne
    · exact absurd rfl hne
    · exact hs
  · exact (longTextAnswer_taken_out_iff htext).mpr (.inr (.inr hs))

end Cell

namespace Change

open Cell

variable {columns : List Column} {column : Column} {cells : Fields} {cell : Json} {s : String}

/-- A long text that is an object reads as the string in it, and answers as before unless the string
is empty and the question is whether the cell is blank. A long text that is a string reads as the
empty text, and answers as before only what cannot tell it from that. So every answer is as before
for the objects with a text that is not empty, and for the empty string. -/
theorem readable_longText_answers {message : Json} (hmessage : message.Ordered) {kind : ChangeKind}
    (hkind : message.field? "op_type" = some (.string kind.name))
    (hcells : message.field? kind.cellsKey = some (.object cells)) (table : String)
    (hcolumn : columns.find? (fun other => other.key == column.key) = some column)
    (hlong : column.kind = .longText) (hcell : cells.lookup column.key = some cell)
    (htext : cell.HoldsText s) :
    ∃ fields value, readable message table columns = .object fields ∧
      Writes columns (column.key, cell) column.name value ∧
      ((∀ other ∈ columns, other.name = column.name → other.key = column.key) →
        fields.lookup column.name = some value) ∧
      (cell ≠ .string s → value = .string s ∧ ∀ comparison asked,
        longTextAnswer value comparison asked = longTextAnswer cell comparison asked ↔
          asked ≠ "" ∨ (comparison ≠ .equal ∧ comparison ≠ .unequal) ∨ s ≠ "") ∧
      (cell = .string s → value = .string "" ∧ ∀ comparison asked,
        longTextAnswer value comparison asked = longTextAnswer cell comparison asked ↔
          TakesForEmpty s comparison asked) ∧
      (AnswerAlike value cell ↔ cell ≠ .string s ∧ s ≠ "" ∨ cell = .string "") := by
  set change : Change := ⟨kind, (message.field? "row_id").getD .null, cells⟩
  have hwrites : ∀ value, column.Reads cell value →
      Writes columns (column.key, cell) column.name value := fun value hreads =>
    ⟨column, hcolumn, rfl, hreads⟩
  have hfound : ∀ value, column.Reads cell value →
      (∀ other ∈ columns, other.name = column.name → other.key = column.key) →
        (change.fields table columns).lookup column.name = some value := fun value hreads hname =>
    lookup_fields_of_writes hcolumn hname (nodup_cells hmessage hcells) hcell hreads table
  cases htext with
  | string s =>
      -- A string has no field to take the text from, so it reads as the empty text.
      have hreads : column.Reads (.string s) (.string "") := .noText hlong rfl
      refine ⟨change.fields table columns, .string "", readable_eq hkind hcells table columns,
        hwrites _ hreads, hfound _ hreads, fun hne => absurd rfl hne,
        fun _ => ⟨rfl, fun _ _ => longTextAnswer_emptied_iff⟩, ?_⟩
      rw [answerAlike_emptied_iff, Json.string.injEq]
      exact ⟨.inr, fun h => h.resolve_left fun hne => hne.1 rfl⟩
  | @object parts s htext =>
      -- An object gives up its text, and the rest of its fields is gone.
      have hobject : ∀ text, Json.object parts ≠ .string text := nofun
      have hreads : column.Reads (.object parts) (.string s) := .text hlong htext
      refine ⟨change.fields table columns, .string s, readable_eq hkind hcells table columns,
        hwrites _ hreads, hfound _ hreads,
        fun _ => ⟨rfl, fun _ _ => longTextAnswer_taken_out_iff htext⟩,
        fun heq => absurd heq (hobject s), ?_⟩
      rw [answerAlike_taken_out_iff htext]
      exact ⟨fun hs => .inl ⟨hobject s, hs⟩, fun h => (h.resolve_right (hobject "")).2⟩

/-- One text in its two forms, in a row with two columns of long texts: the object keeps all its
answers, and the string does not. -/
theorem readable_longText_answers_forms :
    let notes : Column := ⟨"l1", "Notes", .longText, none⟩
    let remarks : Column := ⟨"l2", "Remarks", .longText, none⟩
    let object : Json := .object [("preview", .string "lo"), ("text", .string "long")]
    let cells : Fields := [("l1", object), ("l2", .string "long")]
    let message : Json := .object [("op_type", .string "insert_row"), ("row_data", .object cells),
      ("row_id", .string "r1")]
    message.Ordered ∧ message.field? "op_type" = some (.string ChangeKind.insert.name) ∧
      message.field? ChangeKind.insert.cellsKey = some (.object cells) ∧
      object.HoldsText "long" ∧ (Json.string "long").HoldsText "long" ∧
      (∃ fields value, readable message "Table1" [notes, remarks] = .object fields ∧
        fields.lookup "Notes" = some value ∧ AnswerAlike value object) ∧
      ∃ fields value, readable message "Table1" [notes, remarks] = .object fields ∧
        fields.lookup "Remarks" = some value ∧ ¬AnswerAlike value (.string "long") := by
  intro notes remarks object cells message
  have hmessage : message.Ordered := Json.normal_eq_self_iff.mp (by decide +kernel)
  have hkind : message.field? "op_type" = some (.string ChangeKind.insert.name) := rfl
  have hcells : message.field? ChangeKind.insert.cellsKey = some (.object cells) := rfl
  have hobject : object.HoldsText "long" := .object rfl
  have hstring : (Json.string "long").HoldsText "long" := .string "long"
  have hnotes : [notes, remarks].find? (fun other => other.key == notes.key) = some notes := rfl
  have hremarks : [notes, remarks].find? (fun other => other.key == remarks.key) = some remarks :=
    rfl
  refine ⟨hmessage, hkind, hcells, hobject, hstring, ?_, ?_⟩
  · rcases readable_longText_answers hmessage hkind hcells "Table1" hnotes rfl rfl hobject with
      ⟨fields, value, hreadable, -, hvalue, -, -, halike⟩
    exact ⟨fields, value, hreadable, hvalue (by decide), halike.mpr (.inl ⟨nofun, by decide⟩)⟩
  · rcases readable_longText_answers hmessage hkind hcells "Table1" hremarks rfl rfl hstring with
      ⟨fields, value, hreadable, -, hvalue, -, -, halike⟩
    refine ⟨fields, value, hreadable, hvalue (by decide), fun h => ?_⟩
    exact absurd (halike.mp h) (by decide)

/-- A text that is stored as a string is equal to itself, and what it reads as is not. -/
theorem not_readable_longText_answers :
    let notes : Column := ⟨"l1", "Notes", .longText, none⟩
    let message : Json := .object [("op_type", .string "insert_row"),
      ("row_data", .object [("l1", .string "hello")]), ("row_id", .string "r1")]
    ∃ fields value, readable message "Table1" [notes] = .object fields ∧
      fields.lookup "Notes" = some value ∧
      longTextAnswer (.string "hello") .equal "hello" = .ok true ∧
      longTextAnswer value .equal "hello" = .ok false := by
  intro notes message
  exact ⟨[("Notes", .string ""), ("_id", .string "r1"), ("op_type", .string "insert_row"),
    ("table_name", .string "Table1")], .string "", by decide +kernel, rfl, by decide +kernel,
    by decide +kernel⟩

end Change

end GridQuery
