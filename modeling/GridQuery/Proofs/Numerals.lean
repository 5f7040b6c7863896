import GridQuery.Json.Printer
import GridQuery.Text.Blank
import Mathlib.Algebra.Group.Nat.Defs

/-!
# Readable Numerals

Which texts are read as decimals, said without the reader: digits with at most one point among or
around them, an exponent that may be missing, and a sign before all of it that may be missing too.
From this both sides of the printer are settled at once. The texts of numbers have that form, so
each of them is read as a numeral; and a text of that form has no characters but those of numerals,
so that a reader of longer texts finds where it ends.

## Main definitions

* `Decimal.IsUnsigned`: The form of a numeral without its sign.
* `Decimal.Writes`: The same, with the coefficient and the exponent that the parts stand for.
* `Decimal.isStart`, `Decimal.isInner`: The characters of numerals.

## Theorems

* `Decimal.isSome_read?_iff`, `Decimal.read?_of_writes`: The texts that are read, and as what.
* `Decimal.exists_cons_of_isSome_read?`: What characters they have.
* `Binary64.isSome_read?_of_isFinite`: A text that names a finite double is among them.
* `Decimal.writes_zeros_before`, `Decimal.writes_zeros_after`, `Decimal.writes_among`,
  `Decimal.writes_after_first`: The places where a point may stand.
* `Number.writes_layOut`: Where the point of a double stands, it has the same value.
* `Number.isSome_read?_text`: The text of a number is among them.
-/

namespace GridQuery

namespace Text

theorem after?_eq_some_iff {expected : Char} {cs rest : List Char} :
    after? expected cs = some rest ↔ cs = expected :: rest := by
  cases cs with
  | nil => exact iff_of_false (Option.some_ne_none rest).symm (List.cons_ne_nil _ _).symm
  | cons c cs =>
      rw [after?, List.cons.injEq]
      split
      · next hc => simp only [hc, true_and, Option.some.injEq]
      · next hc => simp only [hc, false_and, reduceCtorEq]

end Text

namespace Decimal

/-- A character that a numeral may begin with. -/
def isStart (c : Char) : Bool := c.isDigit || c == '+' || c == '-' || c == '.'

/-- A character that a numeral may go on with. -/
def isInner (c : Char) : Bool := isStart c || c == 'e' || c == 'E'

/-- Digits with at most one point, and an exponent. -/
def IsUnsigned (cs : List Char) : Prop :=
  ∃ whole fraction exponent, cs = whole ++ fraction ++ exponent ∧
    whole.all Char.isDigit = true ∧
    (fraction = [] ∨ ∃ digits, fraction = '.' :: digits ∧ digits.all Char.isDigit = true) ∧
    whole ++ fraction.tail ≠ [] ∧ (readExponent? exponent).isSome = true

/-- An unsigned numeral whose digits are the coefficient, its exponent lowered by the digits after
the point. -/
def Writes (cs : List Char) (coefficient : Nat) (exponent : Int) : Prop :=
  ∃ whole fraction power e, cs = whole ++ fraction ++ power ∧
    whole.all Char.isDigit = true ∧
    (fraction = [] ∨ ∃ digits, fraction = '.' :: digits ∧ digits.all Char.isDigit = true) ∧
    whole ++ fraction.tail ≠ [] ∧ readExponent? power = some e ∧
    coefficient = ofDigits (whole ++ fraction.tail) ∧ exponent = e - fraction.tail.length

theorem isUnsigned_of_writes {cs : List Char} {coefficient : Nat} {exponent : Int}
    (h : Writes cs coefficient exponent) : IsUnsigned cs := by
  rcases h with ⟨whole, fraction, power, e, hsplit, hwhole, hfraction, hne, hpower, -, -⟩
  exact ⟨whole, fraction, power, hsplit, hwhole, hfraction, hne,
    Option.isSome_iff_exists.2 ⟨e, hpower⟩⟩

theorem exists_writes_of_isUnsigned {cs : List Char} (h : IsUnsigned cs) :
    ∃ coefficient exponent, Writes cs coefficient exponent := by
  rcases h with ⟨whole, fraction, power, hsplit, hwhole, hfraction, hne, hpower⟩
  rcases Option.isSome_iff_exists.1 hpower with ⟨e, he⟩
  exact ⟨_, _, whole, fraction, power, e, hsplit, hwhole, hfraction, hne, he, rfl, rfl⟩

/-! ## Signs, digits and exponents -/

theorem takeSign_eq (cs : List Char) :
    cs = (takeSign cs).2 ∨ ∃ sign, (sign = '-' ∨ sign = '+') ∧ cs = sign :: (takeSign cs).2 := by
  cases cs with
  | nil => exact .inl rfl
  | cons c cs =>
      -- One sign is taken, minus or plus; any other character stays.
      by_cases hminus : c = '-'
      · subst hminus
        exact .inr ⟨'-', .inl rfl, rfl⟩
      · by_cases hplus : c = '+'
        · subst hplus
          exact .inr ⟨'+', .inr rfl, rfl⟩
        · refine .inl ?_
          simp only [takeSign, Text.after?, if_neg hminus, if_neg hplus, Option.getD_none]

theorem takeSign_of_ne {c : Char} (hminus : c ≠ '-') (hplus : c ≠ '+') (cs : List Char) :
    takeSign (c :: cs) = (false, c :: cs) := by
  simp only [takeSign, Text.after?, if_neg hminus, if_neg hplus, Option.getD_none]

theorem readNat?_isSome_iff {cs : List Char} :
    (readNat? cs).isSome = true ↔ cs ≠ [] ∧ cs.all Char.isDigit = true := by
  unfold readNat?
  split
  · next h =>
      rw [Bool.and_eq_true, Bool.not_eq_true', List.isEmpty_eq_false_iff] at h
      exact iff_of_true rfl h
  · next h =>
      rw [Bool.and_eq_true, Bool.not_eq_true', List.isEmpty_eq_false_iff] at h
      exact iff_of_false Bool.false_ne_true h

theorem all_isDigit_digits (n : Nat) : (digits n).all Char.isDigit = true :=
  (readNat?_isSome_iff.1 (by rw [readNat?_toDigits]; rfl)).2

theorem digits_ne_nil (n : Nat) : digits n ≠ [] :=
  (readNat?_isSome_iff.1 (by rw [readNat?_toDigits]; rfl)).1

/-- An exponent is empty, or a letter and then digits after a sign that may be missing. -/
theorem readExponent?_isSome_iff {cs : List Char} :
    (readExponent? cs).isSome = true ↔
      cs = [] ∨ ∃ c rest, cs = c :: rest ∧ (c = 'e' ∨ c = 'E') ∧
        (takeSign rest).2 ≠ [] ∧ (takeSign rest).2.all Char.isDigit = true := by
  cases cs with
  | nil => exact iff_of_true rfl (.inl rfl)
  | cons c rest =>
      -- An exponent that has digits is read, however large.
      have hcast : ∀ n? : Option Nat, (do let n ← n?; pure (n : Int)).isSome = n?.isSome := by
        intro n?
        cases n? <;> rfl
      rw [readExponent?]
      constructor
      · intro h
        split at h
        · next hc =>
            rw [Option.isSome_map, hcast, readNat?_isSome_iff] at h
            exact .inr ⟨c, rest, rfl, hc, h⟩
        · exact absurd h Bool.false_ne_true
      · rintro (h | ⟨c', rest', heq, hc, hdigits⟩)
        · exact absurd h (List.cons_ne_nil c rest)
        · cases heq
          rw [if_pos hc, Option.isSome_map, hcast, readNat?_isSome_iff]
          exact hdigits

/-! ## The form of numerals -/

/-- A numeral without a sign begins with a digit or a point. -/
theorem exists_cons_of_isUnsigned {cs : List Char} (h : IsUnsigned cs) :
    ∃ c rest, cs = c :: rest ∧ (c.isDigit = true ∨ c = '.') := by
  rcases h with ⟨whole, fraction, exponent, rfl, hwhole, hfraction, hne, -⟩
  cases whole with
  | nil =>
      rcases hfraction with rfl | ⟨digits, rfl, -⟩
      · exact absurd rfl hne
      · exact ⟨'.', digits ++ exponent, rfl, .inr rfl⟩
  | cons c whole =>
      rw [List.all_cons, Bool.and_eq_true] at hwhole
      exact ⟨c, whole ++ fraction ++ exponent, rfl, .inl hwhole.1⟩

theorem takeSign_of_isUnsigned {cs : List Char} (h : IsUnsigned cs) :
    takeSign cs = (false, cs) := by
  rcases exists_cons_of_isUnsigned h with ⟨c, rest, rfl, hc⟩
  refine takeSign_of_ne ?_ ?_ rest
  · rintro rfl
    exact absurd hc (by decide)
  · rintro rfl
    exact absurd hc (by decide)

theorem head?_exponent {cs : List Char} (h : (readExponent? cs).isSome = true) :
    ∀ c ∈ cs.head?, c.isDigit = false ∧ c ≠ '.' := by
  intro c hc
  rcases readExponent?_isSome_iff.1 h with rfl | ⟨e, rest, rfl, he, -⟩
  · exact absurd hc (by simp only [List.head?_nil, Option.mem_def, reduceCtorEq, not_false_eq_true])
  · cases hc
    rcases he with rfl | rfl <;> decide

theorem isSome_ite_map {α β : Type} (b : Bool) (x : Option α) (f : α → β) :
    (if b then none else x.map f).isSome = true ↔ b = false ∧ x.isSome = true := by
  cases b with
  | false => rw [if_neg Bool.false_ne_true, Option.isSome_map, eq_self, true_and]
  | true => exact iff_of_false Bool.false_ne_true fun h => Bool.false_ne_true h.1.symm

/-- Every part ends where the next begins, so the reader cuts at the same places. -/
theorem read?_of_writes {cs unsigned : List Char} {negative : Bool} {coefficient : Nat}
    {exponent : Int} (hsign : takeSign cs = (negative, unsigned))
    (h : Writes unsigned coefficient exponent) :
    read? cs = some ⟨negative, coefficient, exponent⟩ := by
  rcases h with ⟨whole, fraction, power, e, rfl, hwhole, hfraction, hne, hpower, rfl, rfl⟩
  have hhead := head?_exponent (Option.isSome_iff_exists.2 ⟨e, hpower⟩)
  simp only [read?, hsign]
  rcases hfraction with rfl | ⟨digits, rfl, hdigits⟩
  · -- Without a fraction the digits run up to the exponent.
    rcases Text.run_append hwhole fun c hc => (hhead c hc).1 with ⟨htake, hdrop⟩
    have hafter : Text.after? '.' power = none := by
      rw [Option.eq_none_iff_forall_ne_some]
      intro rest hrest
      have hpoint := Text.after?_eq_some_iff.1 hrest
      exact (hhead '.' (by rw [hpoint]; rfl)).2 rfl
    rw [List.tail_nil, List.append_nil] at hne
    simp only [List.append_nil, List.tail_nil, htake, hdrop, hafter, hpower,
      List.isEmpty_eq_false_iff.2 hne, Bool.false_eq_true, if_false, Option.map_some]
  · -- With one they run up to the point, and those behind it up to the exponent.
    rcases Text.run_append hdigits fun c hc => (hhead c hc).1 with ⟨htake, hdrop⟩
    have hpoint : ∀ c ∈ ('.' :: (digits ++ power)).head?, c.isDigit = false := by
      intro c hc
      cases hc
      decide
    rcases Text.run_append hwhole hpoint with ⟨htake', hdrop'⟩
    have hafter := Text.after?_eq_some_iff.2 (rfl : '.' :: (digits ++ power) = _)
    rw [List.tail_cons] at hne
    rw [List.append_assoc, List.cons_append]
    simp only [htake', hdrop', hafter, htake, hdrop, hpower, List.tail_cons,
      List.isEmpty_eq_false_iff.2 hne, Bool.false_eq_true, if_false, Option.map_some]

theorem isSome_read?_iff {cs : List Char} :
    (read? cs).isSome = true ↔ IsUnsigned (takeSign cs).2 := by
  constructor
  · -- The parts that the reader cuts off are the parts of the form.
    rcases hsign : takeSign cs with ⟨negative, unsigned⟩
    simp only [read?, hsign]
    intro h
    have hwhole : (unsigned.takeWhile Char.isDigit).all Char.isDigit = true := List.all_takeWhile
    have hsplit := List.takeWhile_append_dropWhile (p := Char.isDigit) (l := unsigned)
    cases hafter : Text.after? '.' (unsigned.dropWhile Char.isDigit) with
    | none =>
        simp only [hafter, isSome_ite_map, List.isEmpty_eq_false_iff] at h
        refine ⟨_, [], _, ?_, hwhole, .inl rfl, h.1, h.2⟩
        rw [List.append_nil, hsplit]
    | some rest =>
        simp only [hafter, isSome_ite_map, List.isEmpty_eq_false_iff] at h
        refine ⟨_, '.' :: rest.takeWhile Char.isDigit, _, ?_, hwhole,
          .inr ⟨_, rfl, List.all_takeWhile⟩, h.1, h.2⟩
        rw [List.append_assoc, List.cons_append, List.takeWhile_append_dropWhile,
          ← Text.after?_eq_some_iff.1 hafter, hsplit]
  · intro h
    rcases exists_writes_of_isUnsigned h with ⟨coefficient, exponent, hwrites⟩
    rw [read?_of_writes rfl hwrites]
    rfl

/-! ## The characters of numerals -/

theorem isInner_of_isDigit {c : Char} (h : c.isDigit = true) : isInner c = true := by
  simp only [isInner, isStart, h, Bool.true_or]

theorem all_isInner_of_digits {cs : List Char} (h : cs.all Char.isDigit = true) :
    cs.all isInner = true :=
  List.all_eq_true.2 fun c hc => isInner_of_isDigit (List.all_eq_true.1 h c hc)

/-- Characters after an optional sign. -/
theorem all_isInner_of_takeSign {cs : List Char} (h : (takeSign cs).2.all isInner = true) :
    cs.all isInner = true := by
  rcases takeSign_eq cs with heq | ⟨sign, hsign, heq⟩
  · rw [heq]
    exact h
  · rw [heq, List.all_cons, h, Bool.and_true]
    rcases hsign with rfl | rfl <;> rfl

theorem all_isInner_of_isUnsigned {cs : List Char} (h : IsUnsigned cs) :
    cs.all isInner = true := by
  rcases h with ⟨whole, fraction, exponent, rfl, hwhole, hfraction, -, hexponent⟩
  -- A digit, a point, a letter and a sign may all stand inside a numeral.
  have hpoint : fraction.all isInner = true := by
    rcases hfraction with rfl | ⟨digits, rfl, hdigits⟩
    · rfl
    · rw [List.all_cons, all_isInner_of_digits hdigits]
      rfl
  have hpower : exponent.all isInner = true := by
    rcases readExponent?_isSome_iff.1 hexponent with rfl | ⟨c, rest, rfl, hc, -, hdigits⟩
    · rfl
    · rw [List.all_cons, all_isInner_of_takeSign (all_isInner_of_digits hdigits), Bool.and_true]
      rcases hc with rfl | rfl <;> rfl
  rw [List.all_append, List.all_append, all_isInner_of_digits hwhole, hpoint, hpower]
  rfl

theorem exists_cons_of_isSome_read? {cs : List Char} (h : (read? cs).isSome = true) :
    ∃ c rest, cs = c :: rest ∧ isStart c = true ∧ rest.all isInner = true := by
  have hunsigned := isSome_read?_iff.1 h
  have hinner := all_isInner_of_isUnsigned hunsigned
  -- Without a sign the numeral begins with a digit or the point.
  rcases takeSign_eq cs with heq | ⟨sign, hsign, heq⟩
  · rcases exists_cons_of_isUnsigned hunsigned with ⟨c, rest, hcons, hc⟩
    rw [hcons, List.all_cons, Bool.and_eq_true] at hinner
    refine ⟨c, rest, heq.trans hcons, ?_, hinner.2⟩
    rcases hc with hc | rfl
    · simp only [isStart, hc, Bool.true_or]
    · rfl
  · refine ⟨sign, _, heq, ?_, hinner⟩
    rcases hsign with rfl | rfl <;> rfl

/-! ## The numerals that are written -/

theorem isSome_read?_of_isUnsigned {cs : List Char} (h : IsUnsigned cs) :
    (read? cs).isSome = true := by
  rw [isSome_read?_iff, takeSign_of_isUnsigned h]
  exact h

theorem isSome_read?_neg {cs : List Char} (h : IsUnsigned cs) :
    (read? ('-' :: cs)).isSome = true :=
  isSome_read?_iff.2 h

/-- An exponent that is written with its sign is read back. -/
theorem readExponent?_written (e : Int) :
    readExponent? ('e' :: (if e < 0 then '-' else '+') :: digits e.natAbs) = some e := by
  rw [readExponent?, if_pos (.inl rfl)]
  by_cases hsign : e < 0
  · have htake : takeSign ('-' :: digits e.natAbs) = (true, digits e.natAbs) := rfl
    simp only [if_pos hsign, htake, readNat?_toDigits]
    change some (-(e.natAbs : Int)) = some e
    rw [Int.ofNat_natAbs_of_nonpos (Int.le_of_lt hsign), Int.neg_neg]
  · have htake : takeSign ('+' :: digits e.natAbs) = (false, digits e.natAbs) := rfl
    simp only [if_neg hsign, htake, readNat?_toDigits]
    change some (e.natAbs : Int) = some e
    rw [Int.natAbs_of_nonneg (Int.not_lt.1 hsign)]

/-! ## Zeros around digits -/

theorem ofDigits_digits (n : Nat) : ofDigits (digits n) = n :=
  Nat.ofDigitChars_toDigits (by decide) (by decide)

theorem ofDigits_zeros_append (n : Nat) (cs : List Char) :
    ofDigits (List.replicate n '0' ++ cs) = ofDigits cs := by
  rw [ofDigits, Nat.ofDigitChars_append, Nat.ofDigitChars_replicate_zero, Nat.mul_zero, ofDigits]

theorem ofDigits_append_zeros (cs : List Char) (n : Nat) :
    ofDigits (cs ++ List.replicate n '0') = ofDigits cs * 10 ^ n := by
  rw [ofDigits, Nat.ofDigitChars_append, Nat.ofDigitChars_replicate_zero, Nat.mul_comm, ofDigits]

theorem all_isDigit_zeros (n : Nat) : (List.replicate n '0').all Char.isDigit = true :=
  List.all_eq_true.2 fun _ hc => List.eq_of_mem_replicate hc ▸ rfl

/-! ## Where the point stands -/

section Points

variable {digits power : List Char} {e : Int}

theorem writes_plain (hdigits : digits.all Char.isDigit = true) (hne : digits ≠ [])
    (hpower : readExponent? power = some e) : Writes (digits ++ power) (ofDigits digits) e := by
  refine ⟨digits, [], power, e, ?_, hdigits, .inl rfl, ?_, hpower, ?_, ?_⟩
  · rw [List.append_nil]
  · rwa [List.tail_nil, List.append_nil]
  · rw [List.tail_nil, List.append_nil]
  · rw [List.tail_nil, List.length_nil, Int.ofNat_zero, Int.sub_zero]

theorem writes_point {whole : List Char} (hwhole : whole.all Char.isDigit = true)
    (hdigits : digits.all Char.isDigit = true) (hne : whole ++ digits ≠ [])
    (hpower : readExponent? power = some e) :
    Writes (whole ++ '.' :: digits ++ power) (ofDigits (whole ++ digits)) (e - digits.length) :=
  ⟨whole, '.' :: digits, power, e, rfl, hwhole, .inr ⟨digits, rfl, hdigits⟩, hne, hpower, rfl, rfl⟩

theorem writes_zeros_before (n : Nat) (hdigits : digits.all Char.isDigit = true) :
    Writes ('0' :: '.' :: List.replicate n '0' ++ digits) (ofDigits digits)
      (-(n + digits.length : Nat)) := by
  have hzero : ['0'].all Char.isDigit = true := rfl
  have hall : (List.replicate n '0' ++ digits).all Char.isDigit = true := by
    rw [List.all_append, all_isDigit_zeros, hdigits]
    rfl
  -- Zeros in front do not change the integer, but each takes a place behind the point.
  have hcoefficient : ofDigits (['0'] ++ (List.replicate n '0' ++ digits)) = ofDigits digits :=
    ofDigits_zeros_append 1 _ |>.trans (ofDigits_zeros_append n digits)
  have hwrites := writes_point hzero hall (List.cons_ne_nil _ _) (rfl : readExponent? [] = some 0)
  rw [hcoefficient, List.append_nil, List.length_append, List.length_replicate, Int.zero_sub]
    at hwrites
  exact hwrites

theorem writes_zeros_after (n : Nat) (hdigits : digits.all Char.isDigit = true) :
    Writes (digits ++ List.replicate n '0' ++ ['.', '0']) (ofDigits digits * 10 ^ (n + 1))
      (-1) := by
  have hzero : ['0'].all Char.isDigit = true := rfl
  have hall : (digits ++ List.replicate n '0').all Char.isDigit = true := by
    rw [List.all_append, all_isDigit_zeros, hdigits]
    rfl
  -- Each zero behind the digits is a power of ten, the one behind the point included.
  have hcoefficient :
      ofDigits (digits ++ List.replicate n '0' ++ ['0']) = ofDigits digits * 10 ^ (n + 1) := by
    rw [← ofDigits_append_zeros, List.replicate_succ', List.append_assoc]
  have hne : digits ++ List.replicate n '0' ++ ['0'] ≠ [] :=
    List.append_ne_nil_of_right_ne_nil _ (List.cons_ne_nil _ _)
  have hwrites := writes_point hall hzero hne (rfl : readExponent? [] = some 0)
  rw [hcoefficient, List.append_nil] at hwrites
  exact hwrites

theorem writes_among (n : Nat) (hne : digits ≠ []) (hdigits : digits.all Char.isDigit = true) :
    Writes (digits.take n ++ '.' :: digits.drop n) (ofDigits digits)
      (-(digits.length - n : Nat)) := by
  have hsplit := List.take_append_drop n digits
  rw [← hsplit, List.all_append, Bool.and_eq_true] at hdigits
  have hwrites := writes_point hdigits.1 hdigits.2 (by rwa [hsplit])
    (rfl : readExponent? [] = some 0)
  rw [hsplit, List.append_nil, List.length_drop, Int.zero_sub] at hwrites
  exact hwrites

theorem writes_after_first (hne : digits ≠ []) (hdigits : digits.all Char.isDigit = true)
    (hpower : readExponent? power = some e) :
    Writes (digits.take 1 ++ (if digits.length = 1 then [] else '.' :: digits.drop 1) ++ power)
      (ofDigits digits) (e - (digits.length - 1 : Nat)) := by
  split
  · -- One digit stands without a point.
    next hone =>
      rw [List.append_nil, List.take_of_length_le (Nat.le_of_eq hone), hone, Nat.sub_self,
        Int.ofNat_zero, Int.sub_zero]
      exact writes_plain hdigits hne hpower
  · -- All digits but the first stand behind the point.
    have hsplit := List.take_append_drop 1 digits
    rw [← hsplit, List.all_append, Bool.and_eq_true] at hdigits
    have hwrites := writes_point hdigits.1 hdigits.2 (by rwa [hsplit]) hpower
    rwa [hsplit, List.length_drop] at hwrites

end Points

theorem writes_digits (n : Nat) : Writes (digits n) n 0 := by
  have hwrites := writes_plain (all_isDigit_digits n) (digits_ne_nil n)
    (rfl : readExponent? [] = some 0)
  rwa [List.append_nil, ofDigits_digits] at hwrites

theorem isSome_read?_signedDigits (n : Int) : (read? (signedDigits n)).isSome = true := by
  have hunsigned := isUnsigned_of_writes (writes_digits n.natAbs)
  unfold signedDigits
  split
  · exact isSome_read?_neg hunsigned
  · exact isSome_read?_of_isUnsigned hunsigned

end Decimal

namespace Binary64

/-- A name is that of an infinity or of not-a-number, so a finite double was read from a numeral. -/
theorem isSome_read?_of_isFinite {cs : List Char} (h : (read? cs).any isFinite = true) :
    (Decimal.read? cs).isSome = true := by
  cases hread : Decimal.read? cs with
  | some d => rfl
  | none =>
      have hname : (readName? cs).any isFinite = true := by
        simpa only [read?, hread, Option.map_none, Option.none_or] using h
      -- What is not a numeral is a name, and names stand for infinities and for no number.
      have hinf : ∀ negative, (infinity negative).isFinite = false := by decide
      have hnan : ∀ negative, (nan negative).isFinite = false := by decide
      simp only [readName?] at hname
      split at hname
      · rw [Option.any_some, hinf] at hname
        exact absurd hname Bool.false_ne_true
      · split at hname
        · rw [Option.any_some, hnan] at hname
          exact absurd hname Bool.false_ne_true
        · exact absurd hname Bool.false_ne_true

end Binary64

namespace Number

/-- Wherever the point stands, the digits are read with their power; zeros before them count for
nothing, and zeros after them lower it. -/
theorem writes_layOut {digits : List Char} (place : Int) (hne : digits ≠ [])
    (hdigits : digits.all Char.isDigit = true) :
    ∃ k : Nat, Decimal.Writes (layOut digits place) (Decimal.ofDigits digits * 10 ^ k)
      (place - digits.length - k) := by
  have hlength : 1 ≤ digits.length := List.length_pos_iff.2 hne
  unfold layOut
  simp only
  -- The layout depends on where the point falls: before the digits, behind them, among them, or too
  -- far away to be written out.
  split
  · split
    · have hexponent : place - digits.length - (0 : Nat) =
          -((-place).toNat + digits.length : Nat) := by
        omega
      refine ⟨0, ?_⟩
      rw [hexponent, Nat.pow_zero, Nat.mul_one]
      exact Decimal.writes_zeros_before _ hdigits
    · split
      · have hexponent : place - digits.length - (place.toNat - digits.length + 1 : Nat) = -1 := by
          omega
        refine ⟨place.toNat - digits.length + 1, ?_⟩
        rw [hexponent]
        exact Decimal.writes_zeros_after _ hdigits
      · have hexponent : place - digits.length - (0 : Nat) =
            -(digits.length - place.toNat : Nat) := by
          omega
        refine ⟨0, ?_⟩
        rw [hexponent, Nat.pow_zero, Nat.mul_one]
        exact Decimal.writes_among _ hne hdigits
  · have hexponent : place - digits.length - (0 : Nat) =
        place - 1 - (digits.length - 1 : Nat) := by
      omega
    refine ⟨0, ?_⟩
    rw [hexponent, Nat.pow_zero, Nat.mul_one]
    exact Decimal.writes_after_first hne hdigits (Decimal.readExponent?_written (place - 1))

theorem isSome_read?_doubleText (x : Binary64) : (Decimal.read? (doubleText x)).isSome = true := by
  -- Zero has a text of its own, and every other magnitude is laid out from its digits.
  have hmagnitude : Decimal.IsUnsigned
      (if x.shortest.coefficient = 0 then ['0', '.', '0']
        else layOut (Decimal.digits x.shortest.coefficient)
          ((Decimal.digits x.shortest.coefficient).length + x.shortest.exponent)) := by
    split
    · exact ⟨['0'], ['.', '0'], [], rfl, rfl, .inr ⟨['0'], rfl, rfl⟩, List.cons_ne_nil _ _, rfl⟩
    · rcases writes_layOut _ (Decimal.digits_ne_nil _) (Decimal.all_isDigit_digits _) with ⟨_, h⟩
      exact Decimal.isUnsigned_of_writes h
  unfold doubleText
  simp only
  split
  · exact Decimal.isSome_read?_neg hmagnitude
  · exact Decimal.isSome_read?_of_isUnsigned hmagnitude

theorem isSome_read?_text (n : Number) : (Decimal.read? n.text.toList).isSome = true := by
  cases n with
  | int n =>
      rw [text, String.toList_ofList]
      exact Decimal.isSome_read?_signedDigits n
  | double x =>
      rw [text, String.toList_ofList]
      exact isSome_read?_doubleText x

end Number

end GridQuery
