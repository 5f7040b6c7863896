import GridQuery.Number.Decimal
import Mathlib.Algebra.Field.Rat
import Mathlib.Algebra.GroupWithZero.Units.Basic
import Mathlib.Data.Rat.Cast.Defs
import Mathlib.Tactic.FieldSimp
import Mathlib.Tactic.NormNum
import Mathlib.Tactic.Ring

/-!
# Rounding Goes by the Value

The double that a decimal is rounded to, and what it depends on.

A decimal is a coefficient and a power of ten, and many of them have one value. Rounding takes the
coefficient and the power to a fraction, unless the power is so large or so small that it need not
be formed. Nothing of this is seen in the result: the shortcuts give what the fraction would have
given, and a fraction is rounded as any other of the same value. So it is enough to know the value
of a decimal to know its double.

The value of a double is a fraction itself, and rounding that gives the double back.

## Main definitions

* `Decimal.magnitude`, `Decimal.value`: The value of a decimal, without its sign and with it.

## Theorems

* `Binary64.nearestCode_congr`: Fractions of one value have one nearest code.
* `Binary64.nearestCode_units`: A code is nearest to its own value.
* `Binary64.nearest_eq_infinity`, `Binary64.nearest_eq_zero`: Very large and very small fractions.
* `Decimal.toBinary64_eq_nearest`: Rounding without the shortcuts.
* `Decimal.toBinary64_congr`: Decimals of one sign and one magnitude are rounded alike.
* `Decimal.toBinary64_units`: The exact value of a double is rounded to it.
-/

namespace GridQuery

namespace Binary64

theorem unitsPerOne_eq : unitsPerOne = 2 ^ 1074 := by
  delta unitsPerOne
  generalize 1074 = n
  rfl

theorem unitsPerOne_pos : 0 < unitsPerOne := unitsPerOne_eq ▸ pow_pos Nat.two_pos 1074

theorem fractionCount_eq : fractionCount = 2 ^ 52 := by decide

/-! ## Fractions of one value -/

theorem roundDiv_mul_right (num den : Nat) {k : Nat} (hk : 0 < k) :
    roundDiv (num * k) (den * k) = roundDiv num den := by
  have hlt : 2 * (num % den * k) < den * k ↔ 2 * (num % den) < den := by
    rw [← Nat.mul_assoc, Nat.mul_lt_mul_right hk]
  have heq : 2 * (num % den * k) = den * k ↔ 2 * (num % den) = den := by
    rw [← Nat.mul_assoc, Nat.mul_left_inj (Nat.pos_iff_ne_zero.1 hk)]
  simp only [roundDiv, Nat.mul_div_mul_right _ _ hk, Nat.mul_mod_mul_right, hlt, heq]

/-- A whole quotient is not changed. -/
theorem roundDiv_mul_self (q : Nat) {den : Nat} (hden : 0 < den) : roundDiv (q * den) den = q := by
  simp only [roundDiv, Nat.mul_mod_left, Nat.mul_zero, hden, if_true, Nat.mul_div_cancel _ hden]

theorem nearestCode_mul_right (num den : Nat) {k : Nat} (hk : 0 < k) :
    nearestCode (num * k) (den * k) = nearestCode num den := by
  have hnum : num * k * unitsPerOne = num * unitsPerOne * k := Nat.mul_right_comm num k unitsPerOne
  have hden : ∀ p, den * k * p = den * p * k := Nat.mul_right_comm den k
  simp only [nearestCode, hnum, hden, Nat.mul_div_mul_right _ _ hk, roundDiv_mul_right _ _ hk]

theorem nearestCode_congr {num den num' den' : Nat} (hden : 0 < den) (hden' : 0 < den')
    (h : num * den' = num' * den) : nearestCode num den = nearestCode num' den' := by
  calc nearestCode num den
      = nearestCode (num * den') (den * den') := (nearestCode_mul_right num den hden').symm
    _ = nearestCode (num' * den) (den' * den) := by rw [h, Nat.mul_comm den den']
    _ = nearestCode num' den' := nearestCode_mul_right num' den' hden

/-! ## The values of codes -/

/-- A factor of `2 ^ k` raises the logarithm by `k`. -/
theorem log2_mul_two_pow {m : Nat} (hm : m ≠ 0) (k : Nat) : (m * 2 ^ k).log2 = m.log2 + k := by
  have hpow : 0 < 2 ^ k := Nat.pow_pos (by decide)
  rw [Nat.log2_eq_iff (Nat.mul_ne_zero hm (Nat.pos_iff_ne_zero.1 hpow)), Nat.add_right_comm,
    Nat.pow_add, Nat.pow_add _ (m.log2 + 1)]
  exact ⟨Nat.mul_le_mul_right _ (Nat.log2_self_le hm),
    Nat.mul_lt_mul_of_pos_right Nat.lt_log2_self hpow⟩

/-- The codes without a power of two are their numbers of units. -/
theorem nearestCode_of_lt {fraction : Nat} (h : fraction < fractionCount) :
    nearestCode fraction unitsPerOne = fraction := by
  have hlog : fraction.log2 - 52 = 0 := by
    rcases Nat.eq_zero_or_pos fraction with rfl | hpos
    · rfl
    · rw [fractionCount_eq] at h
      exact Nat.sub_eq_zero_of_le (Nat.le_of_lt ((Nat.log2_lt (Nat.pos_iff_ne_zero.1 hpos)).2 h))
  rw [nearestCode, Nat.mul_div_cancel _ unitsPerOne_pos, hlog, Nat.zero_mul, Nat.zero_add,
    Nat.pow_eq, Nat.pow_zero, Nat.mul_one, roundDiv_mul_self _ unitsPerOne_pos]

/-- The others have 53 digits, of which the first is not written. -/
theorem nearestCode_of_digits {fraction : Nat} (h : fraction < fractionCount) (k : Nat) :
    nearestCode ((fractionCount + fraction) * 2 ^ k) unitsPerOne =
      k * fractionCount + (fractionCount + fraction) := by
  have hpow : 0 < 2 ^ k := Nat.pow_pos (by decide)
  have hlog : (fractionCount + fraction).log2 = 52 := by
    rw [fractionCount_eq] at h ⊢
    rw [Nat.log2_eq_iff (by omega)]
    omega
  have hshift : ((fractionCount + fraction) * 2 ^ k).log2 - 52 = k := by
    rw [log2_mul_two_pow (by rw [fractionCount_eq]; omega), hlog, Nat.add_sub_cancel_left]
  rw [nearestCode, Nat.mul_div_cancel _ unitsPerOne_pos, hshift, Nat.pow_eq, Nat.mul_assoc,
    Nat.mul_comm (2 ^ k), roundDiv_mul_self _ (Nat.mul_pos unitsPerOne_pos hpow)]

theorem nearestCode_units (code : Nat) : nearestCode (units code) unitsPerOne = code := by
  have hsplit : fractionCount * (code / fractionCount) + code % fractionCount = code :=
    Nat.div_add_mod code fractionCount
  have hlt : code % fractionCount < fractionCount := Nat.mod_lt code (by decide)
  simp only [units]
  rcases Nat.eq_zero_or_pos (code / fractionCount) with hzero | hpos
  · -- Without an exponent the units are the code itself.
    rw [if_pos hzero, nearestCode_of_lt hlt]
    rwa [hzero, Nat.mul_zero, Nat.zero_add] at hsplit
  · rw [if_neg (Nat.pos_iff_ne_zero.1 hpos), Nat.pow_eq, nearestCode_of_digits hlt]
    rcases Nat.exists_eq_add_of_le' hpos with ⟨below, hbelow⟩
    rw [hbelow, Nat.mul_add, Nat.mul_one, Nat.mul_comm] at hsplit
    rw [hbelow, Nat.add_sub_cancel]
    omega

/-! ## Very large and very small fractions -/

theorem le_log2_of_two_pow_le {n q : Nat} (h : 2 ^ n ≤ q) : n ≤ q.log2 :=
  (Nat.le_log2 (Nat.pos_iff_ne_zero.1 (Nat.one_le_two_pow.trans h))).2 h

theorem infinityCode_le_nearestCode {num den : Nat} (hden : 0 < den) (h : 2 ^ 1024 * den ≤ num) :
    infinityCode ≤ nearestCode num den := by
  generalize hq : num * unitsPerOne / den = q
  have hge : 2 ^ (1024 + 1074) ≤ q := by
    rw [← hq, Nat.le_div_iff_mul_le hden]
    calc 2 ^ (1024 + 1074) * den = 2 ^ 1024 * den * unitsPerOne := by
            rw [unitsPerOne_eq, pow_add, Nat.mul_right_comm]
      _ ≤ num * unitsPerOne := Nat.mul_le_mul_right _ h
  have hne : q ≠ 0 := Nat.pos_iff_ne_zero.1 (Nat.one_le_two_pow.trans hge)
  have hlog : 1024 + 1074 ≤ q.log2 := le_log2_of_two_pow_le hge
  -- The shift leaves 53 digits of the quotient, and those are at least the first of them.
  have hrounded : fractionCount ≤
      roundDiv (num * unitsPerOne) (den * Nat.pow 2 (q.log2 - 52)) := by
    have hfloor : fractionCount ≤ num * unitsPerOne / (den * Nat.pow 2 (q.log2 - 52)) := by
      rw [← Nat.div_div_eq_div_mul, hq, Nat.pow_eq, Nat.le_div_iff_mul_le (Nat.pow_pos (by decide)),
        fractionCount_eq, ← Nat.pow_add, Nat.add_sub_cancel' (by omega)]
      exact Nat.log2_self_le hne
    rcases roundDiv_eq_div_or (num * unitsPerOne) (den * Nat.pow 2 (q.log2 - 52)) with heq | heq
    · exact heq ▸ hfloor
    · exact heq ▸ Nat.le_succ_of_le hfloor
  have hshift : 2046 * fractionCount ≤ (q.log2 - 52) * fractionCount :=
    Nat.mul_le_mul_right _ (by omega)
  rw [nearestCode, hq, infinityCode]
  have hsum : 2047 * fractionCount = 2046 * fractionCount + fractionCount := by
    rw [← Nat.succ_mul]
  rw [hsum]
  exact Nat.add_le_add hshift hrounded

theorem nearestCode_eq_zero {num den : Nat} (h : 2 * (num * unitsPerOne) < den) :
    nearestCode num den = 0 := by
  have hlt : num * unitsPerOne < den := by omega
  have hquotient : num * unitsPerOne / den = 0 := Nat.div_eq_of_lt hlt
  rw [nearestCode, hquotient]
  change 0 * fractionCount + roundDiv _ (den * 1) = 0
  rw [Nat.zero_mul, Nat.zero_add, Nat.mul_one, roundDiv]
  simp only [hquotient, Nat.mod_eq_of_lt hlt, h, if_true]

theorem nearest_eq_infinity {num den : Nat} (negative : Bool) (hden : 0 < den)
    (h : 2 ^ 1024 * den ≤ num) : nearest negative num den = infinity negative := by
  have hcode : min (nearestCode num den) infinityCode = min infinityCode infinityCode := by
    rw [Nat.min_eq_right (infinityCode_le_nearestCode hden h), Nat.min_self]
  simp only [nearest, infinity, ofCode, hcode]

theorem nearest_eq_zero {num den : Nat} (negative : Bool) (h : 2 * (num * unitsPerOne) < den) :
    nearest negative num den = zero negative := by
  rw [nearest, nearestCode_eq_zero h, zero]

theorem isNaN_ofCode (negative : Bool) (code : Nat) : (ofCode negative code).isNaN = false :=
  decide_eq_false (Nat.not_lt.mpr (Nat.min_le_right code infinityCode))

/-- A finite double is the one of its sign and its code. -/
theorem ofCode_magnitude {x : Binary64} (h : x.isFinite = true) :
    ofCode x.negative x.magnitude = x := by
  have hlt : x.magnitude < infinityCode := of_decide_eq_true h
  have hcode : min x.magnitude infinityCode = x.magnitude := Nat.min_eq_left (Nat.le_of_lt hlt)
  cases x
  simp only [ofCode, mk.injEq, true_and]
  exact hcode

end Binary64

namespace Decimal

/-- The value without the sign. -/
def magnitude (d : Decimal) : ℚ := d.coefficient * 10 ^ d.exponent

/-- The value. -/
def value (d : Decimal) : ℚ := if d.negative then -d.magnitude else d.magnitude

/-- The fraction that a decimal is, without a sign. -/
theorem magnitude_eq_div (d : Decimal) :
    d.magnitude = ((d.coefficient * 10 ^ d.exponent.toNat : Nat) : ℚ) /
      ((10 ^ (-d.exponent).toNat : Nat) : ℚ) := by
  have hten : (10 : ℚ) ≠ 0 := by norm_num
  have hexponent : d.exponent = (d.exponent.toNat : Int) - ((-d.exponent).toNat : Int) := by omega
  have hpower : (10 : ℚ) ^ d.exponent = 10 ^ d.exponent.toNat / 10 ^ (-d.exponent).toNat := by
    conv_lhs => rw [hexponent]
    rw [zpow_sub₀ hten, zpow_natCast, zpow_natCast]
  rw [magnitude, hpower]
  push_cast
  rw [mul_div_assoc]

theorem magnitude_eq_zero_iff {d : Decimal} : d.magnitude = 0 ↔ d.coefficient = 0 := by
  have hten : (10 : ℚ) ≠ 0 := by norm_num
  rw [magnitude, mul_eq_zero, Nat.cast_eq_zero]
  exact or_iff_left (zpow_ne_zero _ hten)

theorem two_pow_le_ten_pow (n : Nat) : 2 ^ (3 * n) ≤ 10 ^ n := by
  rw [Nat.pow_mul]
  exact Nat.pow_le_pow_left (by decide) n

/-- A power that is not formed because it is too large. -/
theorem nearest_of_large {coefficient : Nat} (h : coefficient ≠ 0) {exponent : Int}
    (hlarge : 400 < exponent) (negative : Bool) :
    Binary64.nearest negative (coefficient * 10 ^ exponent.toNat) (10 ^ (-exponent).toNat) =
      .infinity negative := by
  refine Binary64.nearest_eq_infinity negative (Nat.pow_pos (by decide)) ?_
  rw [Int.toNat_of_nonpos (by omega), Nat.pow_zero, Nat.mul_one]
  calc 2 ^ 1024 ≤ 2 ^ (3 * exponent.toNat) := pow_le_pow_right₀ one_le_two (by omega)
    _ ≤ 10 ^ exponent.toNat := two_pow_le_ten_pow _
    _ ≤ coefficient * 10 ^ exponent.toNat := Nat.le_mul_of_pos_left _ (Nat.pos_iff_ne_zero.2 h)

/-- A power that is not formed because it is too small for its coefficient. -/
theorem nearest_of_small {coefficient : Nat} {exponent : Int}
    (hsmall : exponent + coefficient.log2 < -400) (negative : Bool) :
    Binary64.nearest negative (coefficient * 10 ^ exponent.toNat) (10 ^ (-exponent).toNat) =
      .zero negative := by
  have hlog : coefficient < 2 ^ (coefficient.log2 + 1) := Nat.lt_log2_self
  refine Binary64.nearest_eq_zero negative ?_
  rw [Int.toNat_of_nonpos (by omega), Nat.pow_zero, Nat.mul_one]
  -- Twice the number stays below the least unit, since three bits go into one decimal place.
  calc 2 * (coefficient * Binary64.unitsPerOne)
      < 2 * (2 ^ (coefficient.log2 + 1) * Binary64.unitsPerOne) :=
        Nat.mul_lt_mul_of_pos_left
          (Nat.mul_lt_mul_of_pos_right hlog Binary64.unitsPerOne_pos) (by decide)
    _ = 2 ^ (coefficient.log2 + 1 + 1074 + 1) := by
        rw [Binary64.unitsPerOne_eq, ← Nat.pow_add, ← Nat.pow_succ']
    _ ≤ 2 ^ (3 * (-exponent).toNat) := Nat.pow_le_pow_right (by decide) (by omega)
    _ ≤ 10 ^ (-exponent).toNat := two_pow_le_ten_pow _

/-- The powers that are not formed would give the same double. -/
theorem toBinary64_eq_nearest {d : Decimal} (h : d.coefficient ≠ 0) :
    d.toBinary64 = .nearest d.negative (d.coefficient * 10 ^ d.exponent.toNat)
      (10 ^ (-d.exponent).toNat) := by
  rw [toBinary64, if_neg h]
  -- Numbers too large or too small are answered without their powers, and answered alike.
  by_cases hlarge : 400 < d.exponent
  · rw [if_pos hlarge, nearest_of_large h hlarge]
  rw [if_neg hlarge]
  by_cases hsmall : d.exponent + d.coefficient.log2 < -400
  · rw [if_pos hsmall, nearest_of_small hsmall]
  rw [if_neg hsmall]
  by_cases hsign : 0 ≤ d.exponent
  · rw [if_pos hsign, Int.toNat_of_nonpos (by omega : -d.exponent ≤ 0)]
    rfl
  · rw [if_neg hsign, Int.toNat_of_nonpos (by omega : d.exponent ≤ 0), Nat.pow_zero, Nat.mul_one]
    rfl

theorem toBinary64_congr {d d' : Decimal} (hnegative : d.negative = d'.negative)
    (h : d.magnitude = d'.magnitude) : d.toBinary64 = d'.toBinary64 := by
  by_cases hzero : d.coefficient = 0
  · have hzero' : d'.coefficient = 0 := by
      rw [← magnitude_eq_zero_iff, ← h, magnitude_eq_zero_iff]
      exact hzero
    rw [toBinary64, toBinary64, if_pos hzero, if_pos hzero', hnegative]
  · have hzero' : d'.coefficient ≠ 0 := by
      rw [Ne, ← magnitude_eq_zero_iff, ← h, magnitude_eq_zero_iff]
      exact hzero
    -- The same value is the same quotient, and only the quotient is rounded.
    have hpower : ∀ n, 0 < 10 ^ n := fun n => Nat.pow_pos (by decide)
    have hcast : ∀ n, ((10 ^ n : Nat) : ℚ) ≠ 0 := fun n =>
      Nat.cast_ne_zero.2 (Nat.pos_iff_ne_zero.1 (hpower n))
    rw [magnitude_eq_div, magnitude_eq_div, div_eq_div_iff (hcast _) (hcast _)] at h
    rw [toBinary64_eq_nearest hzero, toBinary64_eq_nearest hzero', hnegative, Binary64.nearest,
      Binary64.nearest, Binary64.nearestCode_congr (hpower _) (hpower _) (by exact_mod_cast h)]

/-- The exact value of a finite double is rounded to the double. -/
theorem toBinary64_units {x : Binary64} (hfinite : x.isFinite = true) {d : Decimal}
    (hnegative : d.negative = x.negative)
    (h : d.magnitude = (Binary64.units x.magnitude : ℚ) / Binary64.unitsPerOne) :
    d.toBinary64 = x := by
  have hunits : ((Binary64.unitsPerOne : Nat) : ℚ) ≠ 0 :=
    Nat.cast_ne_zero.2 (Nat.pos_iff_ne_zero.1 Binary64.unitsPerOne_pos)
  -- Zero is told by its coefficient, and any other value is the quotient that was given.
  have hcode : d.toBinary64 = .ofCode x.negative x.magnitude := by
    by_cases hzero : d.coefficient = 0
    · rw [magnitude_eq_zero_iff.2 hzero, eq_comm, div_eq_zero_iff, or_iff_left hunits,
        Nat.cast_eq_zero] at h
      have hmagnitude := Binary64.nearestCode_units x.magnitude
      rw [h, Binary64.nearestCode_eq_zero (by
        rw [Nat.zero_mul, Nat.mul_zero]
        exact Binary64.unitsPerOne_pos)] at hmagnitude
      rw [toBinary64, if_pos hzero, hnegative, Binary64.zero, hmagnitude]
    · have hpower : 0 < 10 ^ (-d.exponent).toNat := Nat.pow_pos (by decide)
      have hten : ((10 ^ (-d.exponent).toNat : Nat) : ℚ) ≠ 0 :=
        Nat.cast_ne_zero.2 (Nat.pos_iff_ne_zero.1 hpower)
      rw [magnitude_eq_div, div_eq_div_iff hten hunits] at h
      rw [toBinary64_eq_nearest hzero, Binary64.nearest,
        Binary64.nearestCode_congr hpower Binary64.unitsPerOne_pos (by exact_mod_cast h),
        Binary64.nearestCode_units, hnegative]
  rw [hcode, Binary64.ofCode_magnitude hfinite]

end Decimal

end GridQuery
