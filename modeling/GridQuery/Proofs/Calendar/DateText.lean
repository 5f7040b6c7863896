import GridQuery.Calendar.DateText
import GridQuery.Proofs.Numerals

/-!
# Dates Read Back

The text of a date is read as the date.

Reading a part takes as many digits as it may and at least one, so a part is read back if what
follows it is not a digit. In the text of a date a hyphen follows the year and the month, and
nothing the day. Zeros in front change nothing but the width, and the width matters twice: an
unsigned year is read to four digits, and the year of a date is written without its sign only where
four digits hold it; a month and a day are read to two digits, and have no more.

## Theorems

* `Decimal.ofDigits_padded`, `Decimal.length_padded`: The value and the width of a padded number.
* `Decimal.takeNumber?_append`: Digits are read up to the character that ends them.
* `Date.takeYear?_signed`, `Date.takeYear?_unsigned`: Both ways in which a year is written.
* `Date.takeYear?_append`, `Date.takePart?_append`: The parts of a date are read back.
* `Date.readWith?_text`, `Date.read?_text`: The text of a date names it.
* `Date.isBlank_of_mem_text`, `Date.trim_text`: It has no blanks in it or around it.
-/

namespace GridQuery

theorem Text.isBlank_of_isDigit {c : Char} (h : c.isDigit = true) : isBlank c = false := by
  have hrange : 48 ≤ c.toNat ∧ c.toNat ≤ 57 := Char.isDigit_iff_toNat.mp h
  simp only [isBlank, Bool.or_eq_false_iff, Bool.and_eq_false_iff, decide_eq_false_iff_not,
    beq_eq_false_iff_ne]
  omega

namespace Decimal

theorem padded_ne_nil (width n : Nat) : padded width n ≠ [] :=
  List.append_ne_nil_of_right_ne_nil _ (digits_ne_nil n)

theorem all_isDigit_padded (width n : Nat) : (padded width n).all Char.isDigit = true := by
  rw [padded, List.all_append, all_isDigit_zeros, all_isDigit_digits, Bool.and_self]

theorem ofDigits_padded (width n : Nat) : ofDigits (padded width n) = n := by
  rw [padded, ofDigits_zeros_append, ofDigits_digits]

theorem length_padded {width n : Nat} (hwidth : 0 < width) (h : n < 10 ^ width) :
    (padded width n).length = width := by
  have hdigits : (digits n).length ≤ width :=
    (Nat.length_toDigits_le_iff (by decide) hwidth).mpr h
  rw [padded, List.length_append, List.length_replicate]
  omega

/-- Digits are read up to the character that ends them. -/
theorem takeNumber?_append {most : Nat} {cs rest : List Char} (hne : cs ≠ [])
    (hdigits : cs.all Char.isDigit = true) (hlength : cs.length ≤ most)
    (hrest : ∀ c ∈ rest.head?, c.isDigit = false) :
    takeNumber? most (cs ++ rest) = some (ofDigits cs, rest) := by
  -- All of the digits are taken, and what may be taken after them begins with no digit.
  have htaken : ((cs ++ rest).take most).takeWhile Char.isDigit = cs := by
    rw [List.take_append, List.take_of_length_le hlength]
    refine (Text.run_append hdigits fun c hc => ?_).1
    rw [List.head?_take] at hc
    split at hc
    · exact absurd hc (Option.not_mem_none c)
    · exact hrest c hc
  simp only [takeNumber?, htaken, List.isEmpty_eq_false_iff.mpr hne, Bool.false_eq_true, if_false,
    List.drop_left]

/-- A padded number begins with a digit. -/
theorem exists_cons_padded (width n : Nat) :
    ∃ c cs, padded width n = c :: cs ∧ c.isDigit = true := by
  rcases List.exists_cons_of_ne_nil (padded_ne_nil width n) with ⟨c, cs, heq⟩
  have hall := all_isDigit_padded width n
  rw [heq, List.all_cons, Bool.and_eq_true] at hall
  exact ⟨c, cs, heq, hall.1⟩

/-- Before a padded number there is nothing to skip, no blank and no sign. -/
theorem trimStart_padded (width n : Nat) (rest : List Char) :
    Text.trimStart (padded width n ++ rest) = padded width n ++ rest := by
  rcases exists_cons_padded width n with ⟨c, cs, heq, hdigit⟩
  rw [heq, List.cons_append, Text.trimStart, List.dropWhile_cons,
    if_neg (by rw [Text.isBlank_of_isDigit hdigit]; exact Bool.false_ne_true)]

theorem takeSign_padded (width n : Nat) (rest : List Char) :
    takeSign (padded width n ++ rest) = (false, padded width n ++ rest) := by
  rcases exists_cons_padded width n with ⟨c, cs, heq, hdigit⟩
  rw [heq, List.cons_append]
  refine takeSign_of_ne ?_ ?_ _
  · rintro rfl
    exact absurd hdigit (by decide)
  · rintro rfl
    exact absurd hdigit (by decide)

end Decimal

namespace Date

open Decimal

variable {gap : Char → Bool} {rest : List Char}

/-- After a sign as many digits are read as there are characters, which is never too few. -/
theorem takeYear?_signed {sign : Char} {negative : Bool} (hblank : Text.isBlank sign = false)
    (hsign : ∀ cs, takeSign (sign :: cs) = (negative, cs)) (n : Nat)
    (hrest : ∀ c ∈ rest.head?, c.isDigit = false) :
    takeYear? (sign :: padded 4 n ++ rest) =
      some (if negative then -(n : Int) else n, rest) := by
  have htrim : Text.trimStart (sign :: padded 4 n ++ rest) = sign :: (padded 4 n ++ rest) := by
    rw [List.cons_append, Text.trimStart, List.dropWhile_cons, hblank, if_neg Bool.false_ne_true]
  -- A year behind a sign may have any number of digits.
  have hlength : (padded 4 n).length ≤ (padded 4 n ++ rest).length := by
    rw [List.length_append]
    omega
  unfold takeYear?
  simp only [htrim, hsign, List.length_cons, Nat.left_eq_add, Nat.one_ne_zero, if_false]
  rw [takeNumber?_append (padded_ne_nil 4 n) (all_isDigit_padded 4 n) hlength hrest,
    ofDigits_padded, Option.map_some]

theorem takeYear?_unsigned {n : Nat} (hn : n < 10000)
    (hrest : ∀ c ∈ rest.head?, c.isDigit = false) :
    takeYear? (padded 4 n ++ rest) = some ((n : Int), rest) := by
  have hlength : (padded 4 n).length = 4 := length_padded (by decide) hn
  unfold takeYear?
  simp only [trimStart_padded, takeSign_padded, if_true]
  rw [takeNumber?_append (padded_ne_nil 4 n) (all_isDigit_padded 4 n) (Nat.le_of_eq hlength) hrest,
    ofDigits_padded, Option.map_some, if_neg Bool.false_ne_true]

/-- A year is read back from its text, whatever its sign. -/
theorem takeYear?_append (year : Int) (hrest : ∀ c ∈ rest.head?, c.isDigit = false) :
    takeYear? (yearText year ++ rest) = some (year, rest) := by
  unfold yearText
  by_cases hnegative : year < 0
  · -- A year below zero is written with a minus.
    have habs : -(year.natAbs : Int) = year := by omega
    simp only [hnegative, if_true]
    rw [takeYear?_signed rfl (fun _ => rfl) _ hrest, if_pos rfl, habs]
  · have habs : (year.natAbs : Int) = year := by omega
    by_cases hlarge : 9999 < year
    · simp only [hnegative, hlarge, if_true, if_false]
      rw [takeYear?_signed rfl (fun _ => rfl) _ hrest, if_neg Bool.false_ne_true, habs]
    · -- No sign is written, and the year is one that four digits hold.
      simp only [hnegative, hlarge, if_false]
      rw [takeYear?_unsigned (by omega) hrest, habs]

/-- A month and a day are read back after their hyphen. -/
theorem takePart?_append {n : Nat} (hgap : gap '-' = false) (hn : n < 100)
    (hrest : ∀ c ∈ rest.head?, c.isDigit = false) :
    takePart? gap ('-' :: padded 2 n ++ rest) = some (n, rest) := by
  have hlength : (padded 2 n).length = 2 := length_padded (by decide) hn
  have hafter : Text.after? '-' (('-' :: padded 2 n ++ rest).dropWhile gap) =
      some (padded 2 n ++ rest) := by
    rw [List.cons_append, List.dropWhile_cons, hgap, if_neg Bool.false_ne_true]
    exact Text.after?_eq_some_iff.mpr rfl
  rw [takePart?, hafter, Option.bind_some, trimStart_padded,
    takeNumber?_append (padded_ne_nil 2 n) (all_isDigit_padded 2 n) (Nat.le_of_eq hlength) hrest,
    ofDigits_padded]

theorem readWith?_text (hgap : gap '-' = false) (d : Date) : readWith? gap d.text = some d := by
  rcases d.existing with ⟨-, hmonth, hday⟩
  have hdays := monthLength_le d.year d.month
  -- Each part ends at a hyphen or at the end of the text, and no digit stands there.
  have hhyphen : ∀ cs : List Char, ∀ c ∈ ('-' :: cs).head?, c.isDigit = false := by
    intro cs c hc
    rw [List.head?_cons, Option.mem_some_iff] at hc
    exact hc ▸ rfl
  have hend : ∀ c ∈ ([] : List Char).head?, c.isDigit = false :=
    fun c hc => absurd hc (Option.not_mem_none c)
  have hfirst : takeYear? d.text =
      some (d.year, '-' :: padded 2 d.month ++ '-' :: padded 2 d.day) := by
    rw [text, List.append_assoc]
    exact takeYear?_append d.year (hhyphen _)
  have hsecond : takePart? gap ('-' :: padded 2 d.month ++ '-' :: padded 2 d.day) =
      some (d.month, '-' :: padded 2 d.day) :=
    takePart?_append hgap (by omega) (hhyphen _)
  have hthird := takePart?_append (n := d.day) hgap (by omega) hend
  rw [List.append_nil] at hthird
  simp only [readWith?, hfirst, hsecond, hthird, Option.bind_eq_bind, Option.bind_some,
    List.dropWhile_nil, List.isEmpty_nil, if_true, ofCivil?_self]

theorem read?_text (d : Date) : read? d.text = some d :=
  readWith?_text rfl d

/-! ## What a date is written with -/

theorem mem_yearText {year : Int} {c : Char} (h : c ∈ yearText year) :
    c.isDigit = true ∨ c = '-' ∨ c = '+' := by
  have hplain : c ∈ padded 4 year.natAbs → c.isDigit = true :=
    List.all_eq_true.mp (all_isDigit_padded 4 year.natAbs) c
  unfold yearText at h
  split at h
  · rcases List.mem_cons.mp h with hsign | hdigit
    · exact .inr (.inl hsign)
    · exact .inl (hplain hdigit)
  · split at h
    · rcases List.mem_cons.mp h with hsign | hdigit
      · exact .inr (.inr hsign)
      · exact .inl (hplain hdigit)
    · exact .inl (hplain h)

/-- There is no blank in the text of a date. -/
theorem isBlank_of_mem_text {d : Date} {c : Char} (h : c ∈ d.text) : Text.isBlank c = false := by
  have hpart : ∀ n, ∀ c ∈ padded 2 n, Text.isBlank c = false := fun n c hc =>
    Text.isBlank_of_isDigit (List.all_eq_true.mp (all_isDigit_padded 2 n) c hc)
  simp only [text, List.append_assoc, List.cons_append, List.mem_append, List.mem_cons] at h
  -- A date is digits, hyphens and perhaps a sign.
  rcases h with hyear | rfl | hmonth | rfl | hday
  · rcases mem_yearText hyear with hdigit | rfl | rfl
    · exact Text.isBlank_of_isDigit hdigit
    · rfl
    · rfl
  · rfl
  · exact hpart d.month c hmonth
  · rfl
  · exact hpart d.day c hday

theorem blank_not_mem_text (d : Date) : ' ' ∉ d.text := fun h =>
  Bool.false_ne_true (isBlank_of_mem_text h).symm

/-- The text of a date may be trimmed. -/
theorem trim_text (d : Date) : Text.trim (.ofList d.text) = .ofList d.text := by
  rw [Text.trim, String.toList_ofList, Text.dropAround_of_forall fun _ => isBlank_of_mem_text]

end Date

end GridQuery
