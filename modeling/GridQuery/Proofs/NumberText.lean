import GridQuery.Proofs.Numerals
import GridQuery.Proofs.Rounding

/-!
# The Text of a Number Is Read Back

What the text of a number stands for, if it is read as a numeral.

An integer is written in its digits, and stands for itself. A double is written in a decimal that
was searched for, and stands for itself in another sense: the value of the decimal need not be that
of the double, but it is rounded to it. The search ensures that, as every candidate is tried before
it is taken, and the exact value, which ends the search, is rounded to the double in any case.
Between the decimal that was found and the one that is read there are zeros only: those that are
stripped from its end, and those that are written before the point.

## Theorems

* `Shortest.magnitude_stripZeros`: Zeros at the end of a coefficient may be stripped.
* `Shortest.toBinary64_search`: What is found is rounded to the double.
* `Binary64.toBinary64_shortest`: The same of the shortest decimal.
* `Number.read?_signedDigits`: The digits of an integer stand for it.
* `Number.read?_doubleText`: The text of a double stands for a decimal that is rounded to it.
-/

namespace GridQuery

namespace Decimal

/-- A power of ten may be moved from the exponent to the coefficient. -/
theorem magnitude_mul_pow (negative negative' : Bool) (coefficient k : Nat) (exponent : Int) :
    (⟨negative, coefficient * 10 ^ k, exponent - k⟩ : Decimal).magnitude =
      (⟨negative', coefficient, exponent⟩ : Decimal).magnitude := by
  have hten : (10 : ℚ) ≠ 0 := by norm_num
  have hpower : ((10 : ℚ) ^ k : ℚ) ≠ 0 := pow_ne_zero k hten
  rw [magnitude, magnitude, zpow_sub₀ hten, zpow_natCast]
  push_cast
  field_simp

/-- A number of halves, many times halved, is a number of tenths. -/
theorem magnitude_fives (negative : Bool) (units n : Nat) :
    (⟨negative, units * Nat.pow 5 n, -n⟩ : Decimal).magnitude = (units : ℚ) / (2 ^ n : Nat) := by
  have hten : (10 : ℚ) ^ n = 5 ^ n * 2 ^ n := by
    rw [← mul_pow]
    norm_num
  have hfive : (5 : ℚ) ^ n ≠ 0 := pow_ne_zero n (by norm_num)
  have htwo : (2 : ℚ) ^ n ≠ 0 := pow_ne_zero n (by norm_num)
  rw [magnitude, zpow_neg, zpow_natCast, hten, Nat.pow_eq]
  push_cast
  field_simp

theorem takeSign_signed (negative : Bool) {cs : List Char} {coefficient : Nat} {exponent : Int}
    (h : Writes cs coefficient exponent) :
    takeSign (if negative then '-' :: cs else cs) = (negative, cs) := by
  cases negative with
  | false => exact takeSign_of_isUnsigned (isUnsigned_of_writes h)
  | true => rfl

end Decimal

namespace Shortest

theorem magnitude_stripZeros (fuel : Nat) (d : Decimal) :
    (stripZeros fuel d).negative = d.negative ∧ (stripZeros fuel d).magnitude = d.magnitude := by
  induction fuel generalizing d with
  | zero => exact ⟨rfl, rfl⟩
  | succ fuel ih =>
      rw [stripZeros]
      split
      · next hzero =>
          refine ⟨(ih _).1, (ih _).2.trans ?_⟩
          -- A last zero is a factor of ten, and it moves into the exponent.
          have hcoefficient : d.coefficient / 10 * 10 ^ 1 = d.coefficient := by
            rw [Nat.pow_one]
            exact Nat.div_mul_cancel (Nat.dvd_of_mod_eq_zero hzero)
          have hmoved := Decimal.magnitude_mul_pow d.negative d.negative (d.coefficient / 10) 1
            (d.exponent + 1)
          rw [hcoefficient, Nat.cast_one, Int.add_sub_cancel] at hmoved
          exact hmoved.symm
      · exact ⟨rfl, rfl⟩

/-- A candidate was read back before it was taken. -/
theorem toBinary64_candidate? {x : Binary64} {exponent : Int} {d : Decimal}
    (h : candidate? x exponent = some d) : d.negative = x.negative ∧ d.toBinary64 = x := by
  have hread := List.find?_some h
  rw [Bool.and_eq_true, beq_iff_eq] at hread
  refine ⟨?_, hread.2⟩
  have hmem := List.mem_of_find?_eq_some h
  -- Both candidates have the sign of the number, whichever is tried first.
  split at hmem
  · rcases List.mem_cons.1 hmem with rfl | hmem
    · rfl
    · rw [List.mem_singleton.1 hmem]
  · rcases List.mem_cons.1 hmem with rfl | hmem
    · rfl
    · rw [List.mem_singleton.1 hmem]

/-- The power is left unnamed, so that nothing is computed from it. -/
theorem exists_exact (x : Binary64) :
    ∃ n : Nat, Binary64.unitsPerOne = 2 ^ n ∧
      exact x = ⟨x.negative, Binary64.units x.magnitude * Nat.pow 5 n, -n⟩ := by
  have hunits := Binary64.unitsPerOne_eq
  have hexponent : (-1074 : Int) = -((1074 : Nat) : Int) := rfl
  rw [exact, hexponent]
  generalize 1074 = n at hunits ⊢
  exact ⟨n, hunits, rfl⟩

theorem toBinary64_exact {x : Binary64} (hfinite : x.isFinite = true) :
    (exact x).negative = x.negative ∧ (exact x).toBinary64 = x := by
  rcases exists_exact x with ⟨n, hunits, hexact⟩
  rw [hexact]
  refine ⟨rfl, Decimal.toBinary64_units hfinite rfl ?_⟩
  rw [hunits, Decimal.magnitude_fives]

theorem toBinary64_search {x : Binary64} (hfinite : x.isFinite = true) (exponents : List Int) :
    (search x exponents).negative = x.negative ∧ (search x exponents).toBinary64 = x := by
  rw [search]
  cases hfirst : exponents.findSome? (candidate? x) with
  | none => exact toBinary64_exact hfinite
  | some d =>
      rcases List.exists_of_findSome?_eq_some hfirst with ⟨exponent, -, hcandidate⟩
      exact toBinary64_candidate? hcandidate

theorem toBinary64_stripZeros_search {x : Binary64} (hfinite : x.isFinite = true) (fuel : Nat)
    (exponents : List Int) :
    (stripZeros fuel (search x exponents)).negative = x.negative ∧
      (stripZeros fuel (search x exponents)).toBinary64 = x := by
  rcases toBinary64_search hfinite exponents with ⟨hnegative, hread⟩
  rcases magnitude_stripZeros fuel (search x exponents) with ⟨hsign, hvalue⟩
  exact ⟨hsign.trans hnegative, (Decimal.toBinary64_congr hsign hvalue).trans hread⟩

end Shortest

theorem Binary64.toBinary64_shortest {x : Binary64} (hfinite : x.isFinite = true) :
    x.shortest.negative = x.negative ∧ x.shortest.toBinary64 = x := by
  unfold shortest
  split
  · next hzero =>
      have hunits : units 0 = 0 := rfl
      rw [isZero, beq_iff_eq] at hzero
      refine ⟨rfl, Decimal.toBinary64_units hfinite rfl ?_⟩
      rw [hzero, hunits, Nat.cast_zero, zero_div]
      exact Decimal.magnitude_eq_zero_iff.2 rfl
  · exact Shortest.toBinary64_stripZeros_search hfinite 400 _

namespace Number

/-- The digits of an integer stand for the integer. -/
theorem read?_signedDigits (n : Int) :
    ∃ d, Decimal.read? (Decimal.signedDigits n) = some d ∧ d.value = n := by
  have hwrites := Decimal.writes_digits n.natAbs
  have hread := Decimal.read?_of_writes (Decimal.takeSign_signed (n < 0) hwrites) hwrites
  -- A negative integer is its digits behind a minus.
  have htext : Decimal.signedDigits n = if decide (n < 0) = true then
      '-' :: Decimal.digits n.natAbs else Decimal.digits n.natAbs := by
    simp only [Decimal.signedDigits, decide_eq_true_eq]
  rw [htext]
  refine ⟨_, hread, ?_⟩
  simp only [Decimal.value, Decimal.magnitude, zpow_zero, mul_one, decide_eq_true_eq]
  split
  · next hsign => rw [Nat.cast_natAbs, abs_of_neg hsign, Int.cast_neg, neg_neg]
  · next hsign => rw [Nat.cast_natAbs, abs_of_nonneg (Int.not_lt.1 hsign)]

/-- The text of a finite double stands for a decimal that is rounded to the double. -/
theorem read?_doubleText {x : Binary64} (hfinite : x.isFinite = true) :
    ∃ d, Decimal.read? (doubleText x) = some d ∧ d.toBinary64 = x := by
  rcases Binary64.toBinary64_shortest hfinite with ⟨hnegative, hread⟩
  -- The text writes the magnitude of the shortest decimal, with zeros added perhaps.
  have hwrites : ∃ coefficient exponent, Decimal.Writes
      (if x.shortest.coefficient = 0 then ['0', '.', '0']
        else layOut (Decimal.digits x.shortest.coefficient)
          ((Decimal.digits x.shortest.coefficient).length + x.shortest.exponent))
      coefficient exponent ∧ ∀ negative,
        (⟨negative, coefficient, exponent⟩ : Decimal).magnitude = x.shortest.magnitude := by
    split
    · next hzero =>
        refine ⟨0, -1, ⟨['0'], ['.', '0'], [], 0, rfl, rfl, .inr ⟨['0'], rfl, rfl⟩,
          List.cons_ne_nil _ _, rfl, rfl, rfl⟩, fun negative => ?_⟩
        rw [Decimal.magnitude_eq_zero_iff.2 hzero]
        exact Decimal.magnitude_eq_zero_iff.2 rfl
    · rcases writes_layOut ((Decimal.digits x.shortest.coefficient).length + x.shortest.exponent)
        (Decimal.digits_ne_nil _) (Decimal.all_isDigit_digits _) with ⟨k, hk⟩
      refine ⟨_, _, hk, fun negative => ?_⟩
      rw [Decimal.ofDigits_digits, add_sub_cancel_left]
      exact Decimal.magnitude_mul_pow _ _ _ _ _
  rcases hwrites with ⟨coefficient, exponent, hwrites, hvalue⟩
  -- Reading asks for the value only, and that one is rounded to the number.
  refine ⟨⟨x.negative, coefficient, exponent⟩, ?_, ?_⟩
  · exact Decimal.read?_of_writes (Decimal.takeSign_signed x.negative hwrites) hwrites
  · exact (Decimal.toBinary64_congr hnegative.symm (hvalue _)).trans hread

end Number

end GridQuery
