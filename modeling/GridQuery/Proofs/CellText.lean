import GridQuery.Proofs.NumbersByText
import GridQuery.View.Cell

/-!
# Cell Texts Are Lines

Why a cell cannot break the line of a table that it is shown in.

There are three ways in which the text of a cell comes about, and none of them lets a line feed
through. A string is cut after its first line. A number is written in digits, signs, a point and a
letter. What has no text and no name is written as compact JSON, which has no layout, and in which
the line feeds of strings and keys are escaped, as all control characters are. Lists and objects add
nothing but commas and blanks to what their parts show, so that the rest is an induction over the
value.

## Main definitions

* `Text.IsLine`: The text has no line feed.

## Theorems

* `Text.isLine_intercalate`, `Text.isLine_firstLine`: Texts that are put together, and cut.
* `Number.not_mem_text`, `Number.isLine_text`: The characters that are in no text of a number.
* `Json.isLine_quote`, `Json.isLine_compact`: Compact JSON is one line.
* `Json.isLine_cellText`: The text of any cell is one line.
-/

namespace GridQuery

/-! ## Lines -/

namespace Text

/-- The text has no line feed. -/
def IsLine (s : String) : Prop :=
  '\n' ∉ s.toList

instance (s : String) : Decidable (IsLine s) :=
  inferInstanceAs (Decidable ('\n' ∉ s.toList))

variable {s t : String}

theorem isLine_ofList {cs : List Char} : IsLine (.ofList cs) ↔ '\n' ∉ cs := by
  rw [IsLine, String.toList_ofList]

theorem isLine_append : IsLine (s ++ t) ↔ IsLine s ∧ IsLine t := by
  rw [IsLine, String.toList_append, List.mem_append, not_or]
  rfl

theorem isLine_intercalate {texts : List String} (hs : IsLine s) (h : ∀ t ∈ texts, IsLine t) :
    IsLine (s.intercalate texts) := by
  rw [IsLine, String.toList_intercalate]
  induction texts with
  | nil => exact List.not_mem_nil
  | cons t texts ih =>
      have ht : IsLine t := h t List.mem_cons_self
      cases texts with
      | nil => rwa [List.map_singleton, List.intercalate_singleton]
      | cons u texts =>
          have hrest := ih fun v hv => h v (List.mem_cons_of_mem t hv)
          rw [List.map_cons, List.intercalate_cons_of_ne_nil (List.map_eq_nil_iff.not.mpr
            (List.cons_ne_nil u texts)), List.mem_append, List.mem_append, not_or, not_or]
          exact ⟨⟨ht, hs⟩, hrest⟩

theorem isLine_firstLine (s : String) : IsLine (firstLine s) := by
  unfold firstLine
  split
  · next hcut => exact cut_eq_none_iff.mp hcut
  · next line rest hcut =>
      have hline : '\n' ∉ line := (cut_eq_some_iff.mp hcut).2
      rw [isLine_ofList]
      split
      · exact fun hmem => hline ((List.dropLast_sublist line).subset hmem)
      · exact hline

end Text

/-! ## Numbers -/

namespace Number

variable {c : Char}

/-- A magnitude is written in digits, a point, a letter and signs. -/
theorem not_mem_layOut (hdigit : c.isDigit = false) (hother : c ∉ ['.', 'e', '+', '-'])
    {digits : List Char} (hdigits : digits.all Char.isDigit = true) (place : Int) :
    c ∉ layOut digits place := by
  -- Every layout is made of the digits, of zeros, and of a power of ten with its letter and sign.
  have hall := Decimal.not_mem_of_all_isDigit hdigit hdigits
  have htake : ∀ n, c ∉ digits.take n := fun n h => hall (List.mem_of_mem_take h)
  have hdrop : ∀ n, c ∉ digits.drop n := fun n h => hall (List.mem_of_mem_drop h)
  have hzero : c ≠ '0' := fun h => absurd (h ▸ hdigit) (by decide)
  have hzeros : ∀ n, c ∉ List.replicate n '0' := fun n h => hzero (List.eq_of_mem_replicate h)
  have hpower := Decimal.not_mem_of_all_isDigit hdigit
    (Decimal.all_isDigit_digits (place - 1).natAbs)
  simp only [List.mem_cons, List.not_mem_nil, or_false, not_or] at hother
  rcases hother with ⟨hpoint, hletter, hplus, hminus⟩
  unfold layOut
  simp only
  split_ifs <;>
    simp only [List.mem_append, List.mem_cons, List.cons_append, List.append_nil, List.not_mem_nil,
      hall, htake, hdrop, hzero, hzeros, hpower, hpoint, hletter, hplus, hminus, or_self,
      not_false_eq_true]

theorem not_mem_text (hdigit : c.isDigit = false) (hother : c ∉ ['.', 'e', '+', '-']) (n : Number) :
    c ∉ n.text.toList := by
  have hpoint : c ≠ '.' := fun h => hother (h ▸ List.mem_cons_self)
  have hminus : c ≠ '-' := by
    rintro rfl
    exact hother (by decide)
  cases n with
  | int n =>
      rw [text, String.toList_ofList]
      exact Decimal.not_mem_signedDigits hdigit hminus n
  | double x =>
      have hmagnitude : c ∉ (if x.shortest.coefficient = 0 then ['0', '.', '0']
          else layOut (Decimal.digits x.shortest.coefficient)
            ((Decimal.digits x.shortest.coefficient).length + x.shortest.exponent)) := by
        -- Zero is written without its digits.
        split
        · have hzero : c ≠ '0' := fun h => absurd (h ▸ hdigit) (by decide)
          simp only [List.mem_cons, List.not_mem_nil, hzero, hpoint, or_self, not_false_eq_true]
        · exact not_mem_layOut hdigit hother (Decimal.all_isDigit_digits _) _
      rw [text, String.toList_ofList, doubleText]
      -- A sign may stand in front.
      split
      · rw [List.mem_cons, not_or]
        exact ⟨hminus, hmagnitude⟩
      · exact hmagnitude

theorem isLine_text (n : Number) : Text.IsLine n.text :=
  not_mem_text (by decide) (by decide) n

end Number

namespace Json

open Text

/-! ## Compact JSON -/

theorem newline_not_mem_escapeChar (c : Char) : '\n' ∉ escapeChar c := by
  have hdigit : ∀ n < 16, '\n' ≠ hexDigit n := by decide
  unfold escapeChar
  split
  -- Seven characters have escapes of their own; the line feed is one of them.
  iterate 7 · decide
  · next hfeed _ _ _ _ =>
      split
      · next hcontrol =>
          simp only [List.mem_cons, List.not_mem_nil, hdigit _ (by omega : c.toNat / 16 < 16),
            hdigit _ (by omega : c.toNat % 16 < 16), or_false]
          decide
      · rw [List.mem_singleton]
        exact Ne.symm hfeed

theorem isLine_quote (s : String) : IsLine (quote s) := by
  rw [quote, isLine_ofList]
  simp only [List.mem_append, List.mem_cons, List.mem_flatMap, newline_not_mem_escapeChar,
    and_false, exists_false, List.not_mem_nil, or_false, or_self]
  decide

mutual

theorem isLine_compact : ∀ value : Json, IsLine value.compact
  | .null | .bool true | .bool false => by decide
  | .number n => n.isLine_text
  | .string s => isLine_quote s
  | .array items => by
      rw [compact, isLine_append, isLine_append]
      exact ⟨⟨by decide, isLine_intercalate (by decide) (isLine_compactItems items)⟩, by decide⟩
  | .object fields => by
      rw [compact, isLine_append, isLine_append]
      exact ⟨⟨by decide, isLine_intercalate (by decide) (isLine_compactFields fields)⟩, by decide⟩

theorem isLine_compactItems : ∀ items : List Json, ∀ text ∈ compactItems items, IsLine text
  | [] => fun _ h => absurd h List.not_mem_nil
  | item :: rest => by
      rw [compactItems, List.forall_mem_cons]
      exact ⟨isLine_compact item, isLine_compactItems rest⟩

theorem isLine_compactFields : ∀ fields : Fields, ∀ text ∈ compactFields fields, IsLine text
  | [] => fun _ h => absurd h List.not_mem_nil
  | (key, value) :: rest => by
      rw [compactFields, List.forall_mem_cons, isLine_append, isLine_append]
      exact ⟨⟨⟨isLine_quote key, by decide⟩, isLine_compact value⟩, isLine_compactFields rest⟩

end

/-! ## Cells -/

mutual

/-- Whatever a cell holds, its text is one line. -/
theorem isLine_cellText : ∀ value : Json, IsLine value.cellText
  | .null => by decide
  | .bool b => by cases b <;> decide
  | .string s => isLine_firstLine s
  | .number n => n.isLine_text
  | .array items => by
      rw [cellText]
      refine isLine_intercalate (by decide) fun text htext => ?_
      -- Blank items are left out, and those that are kept are lines as well.
      exact isLine_itemTexts items text (List.mem_of_mem_filter htext)
  | .object fields => by
      rw [cellText]
      split
      · next text htext => exact isLine_fieldText "text" fields text htext
      · split
        · next text htext => exact isLine_fieldText "name" fields text htext
        · exact isLine_compact (.object fields)

theorem isLine_itemTexts : ∀ items : List Json, ∀ text ∈ itemTexts items, IsLine text
  | [] => fun _ h => absurd h List.not_mem_nil
  | item :: rest => by
      rw [itemTexts, List.forall_mem_cons]
      exact ⟨isLine_cellText item, isLine_itemTexts rest⟩

theorem isLine_fieldText (key : String) : ∀ fields : Fields, ∀ text,
    fieldText key fields = some text → IsLine text
  | [] => fun _ h => nomatch h
  | (k, value) :: rest => by
      intro text h
      rw [fieldText] at h
      split at h
      · exact Option.some.inj h ▸ isLine_cellText value
      · exact isLine_fieldText key rest text h

end

end Json

end GridQuery
