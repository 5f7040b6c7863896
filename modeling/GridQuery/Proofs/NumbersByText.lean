import GridQuery.Proofs.ComparisonLaws
import GridQuery.Proofs.NumberText
import GridQuery.View.Cell

/-!
# Numbers Found by their Text

Whether the text that a table shows for a number, taken as a value, finds the number.

A text is read in one of two ways as a value, by whether it has a point. With one it is read as a
double, and a double that is shown with a point is found, as its text is read back as it. Without
one it has to be an integer of a signed word, while the texts of numbers are written without regard
to that: an integer may be as large as an unsigned word, and a double of one digit has no point if
it is written with an exponent. Neither is a value, and for all other numbers the way that is taken
is the one back.

## Main definitions

* `Number.IsJson`: The numbers that JSON has.
* `Number.IsValue`: The numbers whose texts are values.

## Theorems

* `Number.point_mem_layOut`, `Number.point_mem_doubleText`: Which texts have a point.
* `Decimal.readInt64?_signedDigits`: The digits of an integer are read back if it is in bounds.
* `Input.readNumber?_text`: What the text of a number means as a value.
* `Cell.compare_equal_text`: A number is found by its text, or its text is rejected.
* `Cell.not_compare_equal_text`: Two numbers whose texts are rejected.
-/

namespace GridQuery

namespace Decimal

theorem length_digits_eq_one_iff {n : Nat} : (digits n).length = 1 ↔ n < 10 := by
  have hpos : 0 < (digits n).length := List.length_pos_iff.mpr (digits_ne_nil n)
  have hle : (digits n).length ≤ 1 ↔ n < 10 ^ 1 :=
    Nat.length_toDigits_le_iff (by decide) (by decide)
  omega

theorem not_mem_of_all_isDigit {c : Char} (hdigit : c.isDigit = false) {cs : List Char}
    (h : cs.all Char.isDigit = true) : c ∉ cs := fun hmem =>
  Bool.false_ne_true (hdigit.symm.trans (List.all_eq_true.mp h c hmem))

theorem not_mem_signedDigits {c : Char} (hdigit : c.isDigit = false) (hminus : c ≠ '-') (n : Int) :
    c ∉ signedDigits n := by
  have hdigits := not_mem_of_all_isDigit hdigit (all_isDigit_digits n.natAbs)
  unfold signedDigits
  split
  · rw [List.mem_cons]
    exact fun h => h.elim hminus hdigits
  · exact hdigits

theorem readInt64?_eq (cs : List Char) :
    readInt64? cs = ((readNat? (takeSign cs).2).map fun n : Nat =>
      if (takeSign cs).1 = true then -(n : Int) else n).filter Word.fitsSigned := by
  unfold readInt64?
  cases hread : readNat? (takeSign cs).2 <;> simp only [hread] <;> rfl

/-- The digits of an integer are read back as the integer, if a signed word holds it. -/
theorem readInt64?_signedDigits (n : Int) :
    readInt64? (signedDigits n) = if Word.fitsSigned n then some n else none := by
  have htext : signedDigits n = if decide (n < 0) = true then '-' :: digits n.natAbs
      else digits n.natAbs := by
    simp only [signedDigits, decide_eq_true_eq]
  have hvalue : (if n < 0 then -(n.natAbs : Int) else n.natAbs) = n := by
    split <;> omega
  rw [readInt64?_eq, htext, takeSign_signed _ (writes_digits n.natAbs)]
  simp only [readNat?_toDigits, Option.map_some, decide_eq_true_eq, hvalue, Option.filter_some]

/-- An integer has no characters but digits after its sign. -/
theorem readInt64?_of_mem {c : Char} (hdigit : c.isDigit = false) (hminus : c ≠ '-')
    (hplus : c ≠ '+') {cs : List Char} (h : c ∈ cs) : readInt64? cs = none := by
  have hread : readNat? (takeSign cs).2 = none := by
    rw [← Option.not_isSome_iff_eq_none, readNat?_isSome_iff]
    exact fun hdigits =>
      not_mem_of_all_isDigit hdigit hdigits.2 (mem_takeSign hminus hplus h)
  rw [readInt64?_eq, hread, Option.map_none, Option.filter_none]

end Decimal

namespace Number

/-! ## Which texts have a point -/

/-- Written out, the digits of a magnitude always have a point; before an exponent only if there are
two of them. -/
theorem point_mem_layOut {digits : List Char} (hdigits : digits.all Char.isDigit = true)
    (place : Int) :
    '.' ∈ layOut digits place ↔
      (layout.least ≤ place ∧ place ≤ layout.most) ∨ digits.length ≠ 1 := by
  unfold layOut
  simp only
  split
  · next hplace =>
      refine iff_of_true ?_ (.inl hplace)
      split_ifs <;> simp only [List.cons_append, List.mem_cons, List.mem_append, true_or, or_true]
  · next hplace =>
      by_cases hone : digits.length = 1
      · -- All that stands there is the digit, a letter, a sign and digits.
        refine iff_of_false ?_ fun h => h.elim hplace fun h => h hone
        have hfirst : '.' ∉ digits.take 1 := fun h =>
          Decimal.not_mem_of_all_isDigit rfl hdigits (List.mem_of_mem_take h)
        have hpower := Decimal.not_mem_of_all_isDigit (c := '.') rfl
          (Decimal.all_isDigit_digits (place - 1).natAbs)
        have hsign : '.' ≠ if place - 1 < 0 then '-' else '+' := by
          split <;> decide
        have hletter : '.' ≠ 'e' := by decide
        simp only [if_pos hone, List.append_nil, List.mem_append, List.mem_cons, hfirst, hpower,
          hsign, hletter, or_self, not_false_eq_true]
      · refine iff_of_true ?_ (.inr hone)
        simp only [if_neg hone, List.mem_append, List.mem_cons, true_or, or_true]

/-- A magnitude without a point has an exponent. -/
theorem letter_mem_layOut (digits : List Char) {place : Int}
    (h : ¬(layout.least ≤ place ∧ place ≤ layout.most)) : 'e' ∈ layOut digits place := by
  unfold layOut
  simp only [if_neg h, List.mem_append, List.mem_cons, true_or, or_true]

/-- The numbers that JSON has: the integers of a word with or without a sign, and the finite
doubles. -/
def IsJson : Number → Prop
  | .int n => -(Word.half64 : Int) ≤ n ∧ n < Word.size64
  | .double x => x.isFinite = true

/-- The numbers whose texts are values: the integers below the bound of a signed word, and the
doubles that are not shown as one digit and an exponent. -/
def IsValue : Number → Prop
  | .int n => n < Word.half64
  | .double x => x.shortest.coefficient = 0 ∨ 10 ≤ x.shortest.coefficient ∨
      (-5 ≤ x.shortest.exponent ∧ x.shortest.exponent ≤ 15)

instance (n : Number) : Decidable n.IsJson :=
  match n with
  | .int n => inferInstanceAs (Decidable (-(Word.half64 : Int) ≤ n ∧ n < Word.size64))
  | .double x => inferInstanceAs (Decidable (x.isFinite = true))

instance (n : Number) : Decidable n.IsValue :=
  match n with
  | .int n => inferInstanceAs (Decidable (n < Word.half64))
  | .double x => inferInstanceAs (Decidable (x.shortest.coefficient = 0 ∨
      10 ≤ x.shortest.coefficient ∨ (-5 ≤ x.shortest.exponent ∧ x.shortest.exponent ≤ 15)))

/-- A double is shown with a point, or else with a letter. -/
theorem point_mem_doubleText (x : Binary64) :
    (IsValue (.double x) → '.' ∈ doubleText x) ∧
      (¬IsValue (.double x) → '.' ∉ doubleText x ∧ 'e' ∈ doubleText x) := by
  have hsigned : ∀ {c : Char} {cs : List Char}, c ≠ '-' →
      (c ∈ (if x.negative then '-' :: cs else cs) ↔ c ∈ cs) := by
    intro c cs hminus
    split
    · rw [List.mem_cons, or_iff_right hminus]
    · exact Iff.rfl
  have hpoint : '.' ≠ '-' := by decide
  have hletter : 'e' ≠ '-' := by decide
  -- The sign is neither of the two characters, so the magnitude alone is looked at.
  simp only [doubleText, hsigned hpoint, hsigned hletter, IsValue]
  by_cases hzero : x.shortest.coefficient = 0
  · rw [if_pos hzero]
    exact ⟨fun _ => by decide, fun h => absurd (.inl hzero) h⟩
  · have hcount := Decimal.length_digits_eq_one_iff (n := x.shortest.coefficient)
    have hleast : layout.least = -4 := rfl
    have hmost : layout.most = 16 := rfl
    rw [if_neg hzero, or_iff_right hzero,
      point_mem_layOut (Decimal.all_isDigit_digits x.shortest.coefficient)]
    exact ⟨fun h => by omega, fun h => ⟨by omega, letter_mem_layOut _ (by omega)⟩⟩

end Number

namespace Input

/-- The text of a number means the number, as a double, unless it is not a value. -/
theorem readNumber?_text {n : Number} (h : n.IsJson) :
    readNumber? n.text = if n.IsValue then some n.toBinary64 else none := by
  cases n with
  | int n =>
      -- Without a point, the digits are read within the bounds of a signed word.
      have hpoint : '.' ∉ Decimal.signedDigits n :=
        Decimal.not_mem_signedDigits rfl (by decide) n
      have hfits : Word.fitsSigned n = true ↔ (Number.int n).IsValue := by
        rw [Word.fitsSigned, Bool.and_eq_true, decide_eq_true_eq, decide_eq_true_eq]
        exact and_iff_right h.1
      simp only [readNumber?, Number.text, String.toList_ofList, List.contains_eq_mem, hpoint,
        decide_false, Bool.false_eq_true, if_false, Decimal.readInt64?_signedDigits, hfits]
      split <;> rfl
  | double x =>
      rcases Number.point_mem_doubleText x with ⟨hvalue, hletter⟩
      simp only [readNumber?, Number.text, String.toList_ofList, List.contains_eq_mem]
      by_cases hshown : (Number.double x).IsValue
      · rcases Number.read?_doubleText h with ⟨d, hread, hrounded⟩
        simp only [hvalue hshown, decide_true, if_true, hshown, Binary64.read?, hread,
          Option.map_some, Option.some_or, hrounded, Number.toBinary64]
      · -- The reader of integers is asked, and the letter of the exponent stops it.
        rcases hletter hshown with ⟨hpoint, hmem⟩
        simp only [hpoint, decide_false, Bool.false_eq_true, if_false, hshown,
          Decimal.readInt64?_of_mem rfl (by decide) (by decide) hmem, Option.map_none]

end Input

namespace Cell

/-- In a column of numbers, the text that is shown for a number is a value that the cell is equal
to, or it is rejected. It is rejected for the integers that a signed word does not hold, and for the
doubles that are shown as one digit and an exponent. -/
theorem compare_equal_text {kind : ColumnKind}
    (hkind : kind = .number ∨ kind = .rate ∨ kind = .duration) {n : Number} (h : n.IsJson) :
    (n.IsValue → ∃ input, Input.coerce kind (Json.number n).cellText = .ok input ∧
      compare ⟨kind, some (.number n)⟩ .equal input = .ok true) ∧
    (¬n.IsValue → Input.coerce kind (Json.number n).cellText =
      .error (.valueCoercion kind (Json.number n).cellText .numberInput)) := by
  have hshown : (Json.number n).cellText = n.text := rfl
  have htext : n.text ≠ "" := by
    rcases Decimal.exists_cons_of_isSome_read? (Number.isSome_read?_text n) with
      ⟨c, rest, hcons, -, -⟩
    rintro hempty
    rw [hempty] at hcons
    exact nomatch hcons
  rw [hshown, Input.coerce_numeral hkind htext, Input.readNumber?_text h]
  constructor
  · intro hvalue
    refine ⟨.number n.toBinary64, by rw [if_pos hvalue]; rfl, ?_⟩
    have hfamily : kind.family = .ordered := by
      rcases hkind with rfl | rfl | rfl <;> rfl
    have hordered : ordered ⟨kind, some (.number n)⟩ = .ok (.number n.toBinary64) := by
      rcases hkind with rfl | rfl | rfl <;> rfl
    have hinput : Input.number n.toBinary64 ≠ .blank := nofun
    rw [compare_ordered hfamily (by decide : Comparison.equal ≠ .like) hinput, hordered]
    -- The cell holds the double that the value means, and a number is equal to itself.
    have hfinite : (Json.number n).FiniteNumber := by
      cases n with
      | int n => trivial
      | double x => exact h
    simp only [Except.map, orderTo?, Binary64.order?_self (Number.isNaN_toBinary64 hfinite)]
    rfl
  · intro hvalue
    rw [if_neg hvalue]
    rfl

/-- A tenth is found by its text, of which it is not the exact value. -/
theorem compare_equal_text_tenth :
    let n : Number := .double ⟨false, 0x3FB999999999999A, by decide⟩
    n.IsJson ∧ n.IsValue ∧ (Json.number n).cellText = "0.1" ∧
      ∃ input, Input.coerce .rate "0.1" = .ok input ∧
        compare ⟨.rate, some (.number n)⟩ .equal input = .ok true := by
  intro n
  have hjson : n.IsJson := by decide
  have hvalue : n.IsValue := by decide +kernel
  have htext : (Json.number n).cellText = "0.1" := by decide +kernel
  exact ⟨hjson, hvalue, htext, htext ▸ (compare_equal_text (.inr (.inl rfl)) hjson).1 hvalue⟩

/-- Ten to the sixteenth is not found as a double, and two to the sixty-third not as an integer. -/
theorem not_compare_equal_text :
    (¬∀ x : Binary64, (Number.double x).IsJson → ∃ input,
      Input.coerce .number (Json.number (.double x)).cellText = .ok input ∧
        compare ⟨.number, some (.number (.double x))⟩ .equal input = .ok true) ∧
    (¬∀ n : Int, (Number.int n).IsJson → ∃ input,
      Input.coerce .number (Json.number (.int n)).cellText = .ok input ∧
        compare ⟨.number, some (.number (.int n))⟩ .equal input = .ok true) := by
  constructor
  · -- The text of the number has an exponent and no point, and the value is read as an integer.
    intro h
    rcases h ⟨false, 0x4341C37937E08000, by decide⟩ (by decide) with ⟨input, hinput, -⟩
    have herror : Input.coerce .number (Json.number (.double
        ⟨false, 0x4341C37937E08000, by decide⟩)).cellText =
          .error (.valueCoercion .number "1e+16" .numberInput) := by decide +kernel
    exact nomatch herror.symm.trans hinput
  · -- The number is beyond the integers that a value may be.
    intro h
    rcases h 9223372036854775808 (by decide) with ⟨input, hinput, -⟩
    have herror : Input.coerce .number (Json.number (.int 9223372036854775808)).cellText =
        .error (.valueCoercion .number "9223372036854775808" .numberInput) := by decide +kernel
    exact nomatch herror.symm.trans hinput

end Cell

end GridQuery
