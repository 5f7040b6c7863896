import GridQuery.Proofs.ComparisonLaws
import Mathlib.Order.Monotone.Basic

/-!
# Comparing Integers as Doubles

What the comparisons of a number cell say of two integers.

A number that cells are compared with is a double, and so is what a number cell holds, also where
both are written as integers. An integer becomes the double nearest to it, which is the integer
rounded to 53 binary digits. So the comparisons tell the order of the rounded integers, and that is
the order of the integers as long as no two of them are rounded to one.

Two facts carry this over. A double has a code, and codes are ordered as their values are, so that
comparing codes is comparing values. And rounding does not change the order of two integers, it can
only make them equal, which happens to no integer that has 53 digits or fewer.

## Main definitions

* `Binary64.roundedNat`, `Binary64.rounded`: An integer rounded to 53 binary digits.
* `Comparison.relates`: What a comparison says of two integers.

## Theorems

* `Binary64.units_strictMono`: Codes are ordered as their values.
* `Binary64.units_nearestCode`: The double nearest to a natural number has its rounded value.
* `Binary64.rounded_mono`: Rounding does not turn an order around.
* `Binary64.eq_of_rounded_eq`: Which integers may be rounded to one.
* `Binary64.order?_ofInt`: Two integers are compared by their rounded values.
* `Cell.compare_integers`: The comparisons of a cell that is an integer.
* `Cell.not_compare_integers`: Two integers that are not told apart.
-/

namespace GridQuery

namespace Binary64

/-! ## The order of codes -/

theorem units_eq {exponent fraction : Nat} (h : fraction < fractionCount) :
    units (exponent * fractionCount + fraction) =
      if exponent = 0 then fraction else (fractionCount + fraction) * 2 ^ (exponent - 1) := by
  have hpos : 0 < fractionCount := by decide
  have hexponent : (exponent * fractionCount + fraction) / fractionCount = exponent := by
    rw [Nat.add_comm, Nat.add_mul_div_right _ _ hpos, Nat.div_eq_of_lt h, Nat.zero_add]
  have hfraction : (exponent * fractionCount + fraction) % fractionCount = fraction := by
    rw [Nat.add_comm, Nat.add_mul_mod_self_right, Nat.mod_eq_of_lt h]
  simp only [units, hexponent, hfraction, Nat.pow_eq]

/-- The next code is one unit of its exponent above, also where the exponent changes. -/
theorem units_lt_units_succ (code : Nat) : units code < units (code + 1) := by
  have hpos : 0 < fractionCount := by decide
  have hsplit : code = code / fractionCount * fractionCount + code % fractionCount := by
    rw [Nat.mul_comm]
    exact (Nat.div_add_mod code fractionCount).symm
  have hlt : code % fractionCount < fractionCount := Nat.mod_lt code hpos
  generalize code / fractionCount = exponent at hsplit
  generalize code % fractionCount = fraction at hsplit hlt
  subst hsplit
  rw [units_eq hlt]
  -- Within one exponent the next code has one more of its fraction.
  by_cases hlast : fraction + 1 < fractionCount
  · rw [Nat.add_assoc, units_eq hlast]
    by_cases hzero : exponent = 0
    · rw [if_pos hzero, if_pos hzero]
      omega
    · rw [if_neg hzero, if_neg hzero]
      exact Nat.mul_lt_mul_of_pos_right (by omega) (Nat.pow_pos (by decide))
  · -- The fraction is full, and the next code has the next exponent and none.
    have hnext : exponent * fractionCount + fraction + 1 = (exponent + 1) * fractionCount + 0 := by
      rw [Nat.add_mul, Nat.one_mul]
      omega
    rw [hnext, units_eq hpos, if_neg (Nat.succ_ne_zero exponent), Nat.add_zero,
      Nat.add_sub_cancel]
    by_cases hzero : exponent = 0
    · rw [if_pos hzero, hzero, Nat.pow_zero, Nat.mul_one]
      exact hlt
    · rcases Nat.exists_eq_succ_of_ne_zero hzero with ⟨below, rfl⟩
      rw [if_neg hzero, Nat.succ_sub_one, Nat.pow_succ, Nat.mul_comm (2 ^ below) 2,
        ← Nat.mul_assoc]
      exact Nat.mul_lt_mul_of_pos_right (by omega) (Nat.pow_pos (by decide))

theorem units_strictMono : StrictMono units := strictMono_nat_of_lt_succ units_lt_units_succ

/-! ## Integers rounded to 53 digits -/

/-- A natural number rounded to 53 binary digits, a half to the even neighbour. -/
def roundedNat (n : Nat) : Nat :=
  roundDiv n (2 ^ (n.log2 - 52)) * 2 ^ (n.log2 - 52)

/-- An integer rounded to 53 binary digits. -/
def rounded (n : Int) : Int :=
  if n < 0 then -(roundedNat n.natAbs : Int) else roundedNat n.natAbs

/-- A quotient is rounded up if its rest is more than a half, or a half on an odd floor. -/
theorem roundDiv_eq (num den : Nat) :
    roundDiv num den = num / den +
      if den < 2 * (num % den) ∨ 2 * (num % den) = den ∧ num / den % 2 = 1 then 1 else 0 := by
  simp only [roundDiv]
  -- Below one half, on it and above it.
  by_cases hless : 2 * (num % den) < den
  · rw [if_pos hless, if_neg (by omega), Nat.add_zero]
  · rw [if_neg hless]
    by_cases hhalf : 2 * (num % den) = den
    · rw [if_pos hhalf]
      by_cases heven : num / den % 2 = 0
      · rw [if_pos heven, if_neg (by omega), Nat.add_zero]
      · rw [if_neg heven, if_pos (by omega)]
    · rw [if_neg hhalf, if_pos (by omega)]

theorem le_roundDiv {low num den : Nat} (h : low ≤ num / den) : low ≤ roundDiv num den := by
  rcases roundDiv_eq_div_or num den with heq | heq <;> omega

theorem roundDiv_le {high num den : Nat} (h : num / den < high) : roundDiv num den ≤ high := by
  rcases roundDiv_eq_div_or num den with heq | heq <;> omega

theorem roundDiv_mono {num num' : Nat} (h : num ≤ num') (den : Nat) :
    roundDiv num den ≤ roundDiv num' den := by
  have hdiv : num / den ≤ num' / den := Nat.div_le_div_right h
  by_cases hlt : num / den < num' / den
  · exact (roundDiv_le hlt).trans (le_roundDiv (Nat.le_refl _))
  · -- On one floor the larger number has the larger rest, and is rounded up if the other is.
    have heq : num / den = num' / den := by omega
    have hrest : num % den ≤ num' % den := by
      have hsplit := Nat.div_add_mod num den
      have hsplit' := Nat.div_add_mod num' den
      rw [heq] at hsplit
      omega
    rw [roundDiv_eq, roundDiv_eq, heq]
    split
    · rw [if_pos (by omega)]
    · omega

/-- A number with 53 digits or fewer has nothing to be rounded. -/
theorem roundedNat_of_lt {n : Nat} (h : n < 2 ^ 53) : roundedNat n = n := by
  have hlog : n.log2 - 52 = 0 := by
    by_cases hzero : n = 0
    · subst hzero
      rfl
    · have hlt := (Nat.log2_lt hzero).mpr h
      omega
  have hwhole := roundDiv_mul_self n Nat.one_pos
  rw [Nat.mul_one] at hwhole
  rw [roundedNat, hlog, Nat.pow_zero, hwhole, Nat.mul_one]

theorem nearestCode_zero : nearestCode 0 1 = 0 := by
  refine nearestCode_eq_zero ?_
  rw [Nat.zero_mul]
  decide

/-- The 53 digits that rounding keeps, with zeros at their end if the number has fewer, are the
number divided by the place of the last of them. The places before the point are `below`. -/
theorem exists_roundDiv_eq {n : Nat} (h : n ≠ 0) (below : Nat) :
    ∃ digits, fractionCount ≤ digits ∧ digits ≤ 2 * fractionCount ∧
      roundDiv (n * 2 ^ (52 + below)) (2 ^ (n.log2 + below)) = digits ∧
      digits * 2 ^ (n.log2 + below) = roundedNat n * 2 ^ (52 + below) := by
  have hlow : 2 ^ n.log2 ≤ n := Nat.log2_self_le h
  have hhigh : n < 2 ^ (n.log2 + 1) := Nat.lt_log2_self
  have hpow : ∀ k, 0 < 2 ^ k := fun k => Nat.pow_pos (by decide)
  rw [fractionCount_eq]
  by_cases hlog : n.log2 ≤ 52
  · -- A short number is a whole multiple of that place.
    have hplace : n * 2 ^ (52 + below) = n * 2 ^ (52 - n.log2) * 2 ^ (n.log2 + below) := by
      rw [Nat.mul_assoc, ← Nat.pow_add]
      congr 2
      omega
    have hshort : n < 2 ^ 53 :=
      hhigh.trans_le (Nat.pow_le_pow_right (by decide) (by omega))
    refine ⟨n * 2 ^ (52 - n.log2), ?_, ?_, ?_, ?_⟩
    · calc 2 ^ 52 = 2 ^ n.log2 * 2 ^ (52 - n.log2) := by
            rw [← Nat.pow_add, Nat.add_sub_cancel' hlog]
        _ ≤ n * 2 ^ (52 - n.log2) := Nat.mul_le_mul_right _ hlow
    · calc n * 2 ^ (52 - n.log2) ≤ 2 ^ (n.log2 + 1) * 2 ^ (52 - n.log2) :=
            Nat.mul_le_mul_right _ hhigh.le
        _ = 2 * 2 ^ 52 := by
            rw [← Nat.pow_add, ← Nat.pow_succ']
            congr 1
            omega
    · rw [hplace, roundDiv_mul_self _ (hpow _)]
    · rw [roundedNat_of_lt hshort, hplace]
  · -- A long number is divided by its last place that is kept, and rounded there.
    have hplace : 2 ^ (n.log2 + below) = 2 ^ (n.log2 - 52) * 2 ^ (52 + below) := by
      rw [← Nat.pow_add]
      congr 1
      omega
    refine ⟨roundDiv n (2 ^ (n.log2 - 52)), le_roundDiv ?_, roundDiv_le ?_, ?_, ?_⟩
    · rw [Nat.le_div_iff_mul_le (hpow _), ← Nat.pow_add, Nat.add_sub_cancel' (by omega)]
      exact hlow
    · rw [Nat.div_lt_iff_lt_mul (hpow _), ← Nat.pow_succ', ← Nat.pow_add]
      exact hhigh.trans_le (Nat.pow_le_pow_right (by decide) (by omega))
    · rw [hplace, roundDiv_mul_right _ _ (hpow _)]
    · rw [hplace, roundedNat, Nat.mul_assoc]

/-- The code nearest to a number has the 53 digits that rounding keeps. -/
theorem exists_nearestCode_eq {n : Nat} (h : n ≠ 0) :
    ∃ digits, fractionCount ≤ digits ∧ digits ≤ 2 * fractionCount ∧
      nearestCode n 1 = (n.log2 + 1022) * fractionCount + digits ∧
      digits * 2 ^ (n.log2 + 1022) = roundedNat n * unitsPerOne := by
  -- The power of a unit is left unnamed, so that nothing is computed from it.
  have hunits : ∃ below, below = 1022 ∧ unitsPerOne = 2 ^ (52 + below) :=
    ⟨1022, rfl, unitsPerOne_eq.trans (congrArg (fun power => 2 ^ power) rfl)⟩
  rcases hunits with ⟨below, hbelow, hunits⟩
  rw [← hbelow, hunits]
  have hshift : (n * 2 ^ (52 + below) / 1).log2 - 52 = n.log2 + below := by
    rw [Nat.div_one, log2_mul_two_pow h]
    omega
  rcases exists_roundDiv_eq h below with ⟨digits, hlow, hhigh, hdigits, hvalue⟩
  refine ⟨digits, hlow, hhigh, ?_, hvalue⟩
  rw [nearestCode, hunits, hshift, Nat.one_mul, Nat.pow_eq, hdigits]

/-- The double nearest to a natural number has the value of the rounded number. -/
theorem units_nearestCode (n : Nat) : units (nearestCode n 1) = roundedNat n * unitsPerOne := by
  by_cases hzero : n = 0
  · subst hzero
    rw [nearestCode_zero, roundedNat_of_lt (by decide), Nat.zero_mul]
    rfl
  · -- The digits are 53 bits or just full, and the exponent counts the places below them.
    rcases exists_nearestCode_eq hzero with ⟨digits, hlow, hhigh, hcode, hvalue⟩
    rw [hcode, ← hvalue]
    generalize n.log2 + 1022 = exponent
    by_cases hfull : digits = 2 * fractionCount
    · -- Rounded up to the next power of two, it has the next exponent and no fraction.
      have hnext : exponent * fractionCount + 2 * fractionCount =
          (exponent + 2) * fractionCount + 0 := by
        rw [Nat.add_mul, Nat.add_zero]
      rw [hfull, hnext, units_eq (by decide), if_neg (Nat.succ_ne_zero _), Nat.add_zero,
        Nat.add_sub_assoc (by decide), Nat.pow_succ', Nat.mul_left_comm, Nat.mul_assoc]
    · -- The first digit is not written in the code, for every number but zero has it.
      have hsplit : exponent * fractionCount + digits =
          (exponent + 1) * fractionCount + (digits - fractionCount) := by
        rw [Nat.add_mul, Nat.one_mul]
        omega
      rw [hsplit, units_eq (by omega), if_neg (Nat.succ_ne_zero _), Nat.add_sub_cancel,
        Nat.add_sub_cancel' hlow]

theorem nearestCode_lt_iff {n m : Nat} :
    nearestCode n 1 < nearestCode m 1 ↔ roundedNat n < roundedNat m := by
  rw [← units_strictMono.lt_iff_lt, units_nearestCode, units_nearestCode,
    Nat.mul_lt_mul_right unitsPerOne_pos]

theorem nearestCode_le_infinityCode {n : Nat} (h : n ≤ Word.size64) :
    nearestCode n 1 ≤ infinityCode := by
  by_cases hzero : n = 0
  · subst hzero
    rw [nearestCode_zero]
    exact Nat.zero_le _
  · rcases exists_nearestCode_eq hzero with ⟨digits, -, hhigh, hcode, -⟩
    -- A word has 64 bits, and an exponent of that size is far below the largest.
    have hlog : n.log2 < 65 :=
      (Nat.log2_lt hzero).mpr (Nat.lt_of_le_of_lt h (by decide))
    have hexponent : (n.log2 + 1022) * fractionCount ≤ 1086 * fractionCount :=
      Nat.mul_le_mul_right _ (by omega)
    rw [hcode, infinityCode]
    omega

/-! ## The order of rounded integers -/

/-- Rounding keeps a number between the powers of two around it. -/
theorem roundedNat_bounds {n : Nat} (h : n ≠ 0) :
    2 ^ n.log2 ≤ roundedNat n ∧ roundedNat n ≤ 2 ^ (n.log2 + 1) := by
  -- The 53 digits lie between two powers of two, and so does the number that they make.
  rcases exists_roundDiv_eq h 0 with ⟨digits, hlow, hhigh, -, hvalue⟩
  rw [fractionCount_eq] at hlow hhigh
  rw [Nat.add_zero, Nat.add_zero] at hvalue
  constructor
  · refine Nat.le_of_mul_le_mul_right ?_ (Nat.pow_pos (n := 52) Nat.two_pos)
    rw [← hvalue, Nat.mul_comm]
    exact Nat.mul_le_mul_right _ hlow
  · refine Nat.le_of_mul_le_mul_right ?_ (Nat.pow_pos (n := 52) Nat.two_pos)
    calc roundedNat n * 2 ^ 52 = digits * 2 ^ n.log2 := hvalue.symm
      _ ≤ 2 * 2 ^ 52 * 2 ^ n.log2 := Nat.mul_le_mul_right _ hhigh
      _ = 2 ^ (n.log2 + 1) * 2 ^ 52 := by ring

theorem roundedNat_mono {n m : Nat} (h : n ≤ m) : roundedNat n ≤ roundedNat m := by
  by_cases hzero : n = 0
  · subst hzero
    rw [roundedNat_of_lt (by decide)]
    exact Nat.zero_le _
  · have hm : m ≠ 0 := by omega
    -- Numbers of one length are rounded at the same place.
    have hlog : n.log2 ≤ m.log2 := (Nat.le_log2 hm).mpr ((Nat.log2_self_le hzero).trans h)
    by_cases hsame : n.log2 = m.log2
    · rw [roundedNat, roundedNat, hsame]
      exact Nat.mul_le_mul_right _ (roundDiv_mono h _)
    · -- The power of two after the one stands between them.
      calc roundedNat n ≤ 2 ^ (n.log2 + 1) := (roundedNat_bounds hzero).2
        _ ≤ 2 ^ m.log2 := Nat.pow_le_pow_right (by decide) (by omega)
        _ ≤ roundedNat m := (roundedNat_bounds hm).1

theorem le_roundedNat {n : Nat} (h : 2 ^ 53 ≤ n) : 2 ^ 53 ≤ roundedNat n := by
  have hzero : n ≠ 0 := by omega
  have hlog : 53 ≤ n.log2 := (Nat.le_log2 hzero).mpr h
  exact (Nat.pow_le_pow_right (by decide) hlog).trans (roundedNat_bounds hzero).1

theorem eq_of_roundedNat_eq {n m : Nat} (h : roundedNat n = roundedNat m) :
    n = m ∨ 2 ^ 53 ≤ n ∧ 2 ^ 53 ≤ m := by
  -- Up to 53 bits nothing is rounded, and beyond that nothing comes to lie below.
  by_cases hn : n < 2 ^ 53
  · by_cases hm : m < 2 ^ 53
    · rw [roundedNat_of_lt hn, roundedNat_of_lt hm] at h
      exact .inl h
    · have hlarge := le_roundedNat (Nat.le_of_not_lt hm)
      rw [← h, roundedNat_of_lt hn] at hlarge
      omega
  · by_cases hm : m < 2 ^ 53
    · have hlarge := le_roundedNat (Nat.le_of_not_lt hn)
      rw [h, roundedNat_of_lt hm] at hlarge
      omega
    · exact .inr ⟨Nat.le_of_not_lt hn, Nat.le_of_not_lt hm⟩

theorem roundedNat_pos {n : Nat} (h : n ≠ 0) : 0 < roundedNat n :=
  Nat.lt_of_lt_of_le (Nat.pow_pos (by decide)) (roundedNat_bounds h).1

theorem rounded_mono {n m : Int} (h : n ≤ m) : rounded n ≤ rounded m := by
  unfold rounded
  by_cases hn : n < 0
  · by_cases hm : m < 0
    · have hle : roundedNat m.natAbs ≤ roundedNat n.natAbs := roundedNat_mono (by omega)
      rw [if_pos hn, if_pos hm]
      omega
    · rw [if_pos hn, if_neg hm]
      omega
  · have hle : roundedNat n.natAbs ≤ roundedNat m.natAbs := roundedNat_mono (by omega)
    rw [if_neg hn, if_neg (by omega)]
    omega

/-- Two integers that are rounded to one have 54 digits, or are the same. -/
theorem eq_of_rounded_eq {n m : Int} (h : rounded n = rounded m) :
    n = m ∨ 2 ^ 53 ≤ n.natAbs ∧ 2 ^ 53 ≤ m.natAbs := by
  unfold rounded at h
  -- The sign is kept, for only zero is rounded to zero.
  by_cases hn : n < 0
  · have hpos : 0 < roundedNat n.natAbs := roundedNat_pos (by omega)
    by_cases hm : m < 0
    · rw [if_pos hn, if_pos hm] at h
      rcases eq_of_roundedNat_eq (n := n.natAbs) (m := m.natAbs) (by omega) with heq | hlarge
      · exact .inl (by omega)
      · exact .inr hlarge
    · rw [if_pos hn, if_neg hm] at h
      omega
  · by_cases hm : m < 0
    · have hpos : 0 < roundedNat m.natAbs := roundedNat_pos (by omega)
      rw [if_neg hn, if_pos hm] at h
      omega
    · rw [if_neg hn, if_neg hm] at h
      rcases eq_of_roundedNat_eq (n := n.natAbs) (m := m.natAbs) (by omega) with heq | hlarge
      · exact .inl (by omega)
      · exact .inr hlarge

/-! ## The doubles nearest to integers -/

theorem key_ofInt {n : Int} (h : n.natAbs ≤ Word.size64) :
    (ofInt n).key =
      if n < 0 then -(nearestCode n.natAbs 1 : Int) else (nearestCode n.natAbs 1 : Int) := by
  have hcode : min (nearestCode n.natAbs 1) infinityCode = nearestCode n.natAbs 1 :=
    Nat.min_eq_left (nearestCode_le_infinityCode h)
  simp only [ofInt, nearest, ofCode, key, hcode, decide_eq_true_eq]

/-- Of two integers the one with the smaller rounded value has the smaller double. -/
theorem key_ofInt_lt_iff {n m : Int} (hn : n.natAbs ≤ Word.size64) (hm : m.natAbs ≤ Word.size64) :
    (ofInt n).key < (ofInt m).key ↔ rounded n < rounded m := by
  have hlt := nearestCode_lt_iff (n := n.natAbs) (m := m.natAbs)
  have hgt := nearestCode_lt_iff (n := m.natAbs) (m := n.natAbs)
  have hzero := nearestCode_lt_iff (n := 0) (m := n.natAbs)
  have hzero' := nearestCode_lt_iff (n := 0) (m := m.natAbs)
  rw [nearestCode_zero, roundedNat_of_lt (by decide)] at hzero hzero'
  rw [key_ofInt hn, key_ofInt hm]
  unfold rounded
  split <;> split <;> omega

theorem order?_ofInt {n m : Int} (hn : n.natAbs ≤ Word.size64) (hm : m.natAbs ≤ Word.size64) :
    (ofInt n).order? (ofInt m) = some (compare (rounded n) (rounded m)) := by
  have hlt := key_ofInt_lt_iff hn hm
  have hgt := key_ofInt_lt_iff hm hn
  have heq : (ofInt n).key = (ofInt m).key ↔ rounded n = rounded m := by omega
  have hnumber : ∀ k, (ofInt k).isNaN = false := fun k => isNaN_ofCode _ _
  simp only [order?, hnumber, Bool.or_self, Bool.false_eq_true, if_false, compare,
    compareOfLessAndEq, hlt, heq]

end Binary64

/-! ## The comparisons of a cell -/

/-- What a comparison says of two integers. -/
def Comparison.relates (n m : Int) : Comparison → Bool
  | .equal => n = m
  | .unequal => n ≠ m
  | .greater => m < n
  | .greaterEqual => m ≤ n
  | .less => n < m
  | .lessEqual => n ≤ m
  | .like => false

namespace Cell

theorem holds_compare (comparison : Comparison) (n m : Int) :
    holds comparison false (some (Ord.compare n m)) = comparison.relates n m := by
  have horder : Ord.compare n m = if n < m then .lt else if n = m then .eq else .gt := rfl
  rw [horder]
  -- All operators are told from the three ways in which two integers compare.
  rcases Int.lt_trichotomy n m with hlt | rfl | hgt
  · have hne : n ≠ m := by omega
    have hle : n ≤ m := by omega
    have hnlt : ¬m < n := by omega
    have hnle : ¬m ≤ n := by omega
    rw [if_pos hlt]
    cases comparison <;> simp only [Comparison.relates, hlt, ne_eq, hne, not_false_eq_true, hle,
      hnlt, hnle] <;> rfl
  · rw [if_neg (Int.lt_irrefl n), if_pos rfl]
    cases comparison <;> simp only [Comparison.relates, ne_eq, not_true_eq_false, Int.lt_irrefl,
      Int.le_refl] <;> rfl
  · have hne : n ≠ m := by omega
    have hle : m ≤ n := by omega
    have hnlt : ¬n < m := by omega
    have hnle : ¬n ≤ m := by omega
    rw [if_neg hnlt, if_neg hne]
    cases comparison <;> simp only [Comparison.relates, hgt, ne_eq, hne, not_false_eq_true, hle,
      hnlt, hnle] <;> rfl

/-- A value without a point is an integer, and becomes the double nearest to it. -/
theorem exists_readInt64?_of_coerce {kind : ColumnKind}
    (hkind : kind = .number ∨ kind = .rate ∨ kind = .duration) {text : String} {input : Input}
    (htext : text ≠ "") (hpoint : '.' ∉ text.toList) (h : Input.coerce kind text = .ok input) :
    ∃ m, Decimal.readInt64? text.toList = some m ∧ m.natAbs ≤ Word.half64 ∧
      input = .number (.ofInt m) := by
  have hcontains : text.toList.contains '.' = false := by
    rw [List.contains_eq_mem, decide_eq_false hpoint]
  rw [Input.coerce_numeral hkind htext, elim_eq_ok_iff, Option.map_eq_some_iff] at h
  rcases h with ⟨x, hx, rfl⟩
  simp only [Input.readNumber?, hcontains, Bool.false_eq_true, if_false] at hx
  rcases Option.map_eq_some_iff.mp hx with ⟨m, hread, rfl⟩
  -- The reader has looked at the bounds of a word.
  have hfits : Word.fitsSigned m = true := (Option.filter_eq_some_iff.mp hread).2
  simp only [Word.fitsSigned, Bool.and_eq_true, decide_eq_true_eq] at hfits
  exact ⟨m, hread, by omega, rfl⟩

/-- A cell that is an integer is compared with another integer as their rounded values are. -/
theorem compare_int {kind : ColumnKind}
    (hkind : kind = .number ∨ kind = .rate ∨ kind = .duration) {n m : Int}
    (hn : n.natAbs ≤ Word.size64) (hm : m.natAbs ≤ Word.size64) {comparison : Comparison}
    (hlike : comparison ≠ .like) :
    compare ⟨kind, some (.number (.int n))⟩ comparison (.number (.ofInt m)) =
      .ok (comparison.relates (Binary64.rounded n) (Binary64.rounded m)) := by
  -- All three kinds hold numbers and compare them in the same way.
  have hordered : ordered ⟨kind, some (.number (.int n))⟩ = .ok (.number (.ofInt n)) := by
    rcases hkind with rfl | rfl | rfl <;> rfl
  have hfamily : kind.family = .ordered := by
    rcases hkind with rfl | rfl | rfl <;> rfl
  have hnumber : (Ordered.number (.ofInt n) == .blank) = false := rfl
  have hinput : Input.number (.ofInt m) ≠ .blank := nofun
  rw [compare_ordered hfamily hlike hinput, hordered]
  simp only [Except.map, hnumber, orderTo?, Binary64.order?_ofInt hn hm, holds_compare]

/-- In a column of numbers, a cell that is an integer and a value that is written without a point
stand to each other as the integers that they are, each rounded to 53 binary digits. Rounding turns
no order around, and it changes the answers only where it takes two integers to one, both of which
then need more than 53 digits. -/
theorem compare_integers {kind : ColumnKind}
    (hkind : kind = .number ∨ kind = .rate ∨ kind = .duration) {n : Int}
    (hn : -(Word.half64 : Int) ≤ n ∧ n < Word.size64) {text : String} {input : Input}
    (htext : text ≠ "") (hpoint : '.' ∉ text.toList)
    (hinput : Input.coerce kind text = .ok input) :
    ∃ m, Decimal.readInt64? text.toList = some m ∧
      (∀ comparison, comparison ≠ .like →
        compare ⟨kind, some (.number (.int n))⟩ comparison input =
          .ok (comparison.relates (Binary64.rounded n) (Binary64.rounded m))) ∧
      (n ≤ m → Binary64.rounded n ≤ Binary64.rounded m) ∧
      (m ≤ n → Binary64.rounded m ≤ Binary64.rounded n) ∧
      ((∀ comparison, comparison ≠ .like →
          compare ⟨kind, some (.number (.int n))⟩ comparison input =
            .ok (comparison.relates n m)) ↔
        (Binary64.rounded n = Binary64.rounded m → n = m)) ∧
      (Binary64.rounded n = Binary64.rounded m →
        n = m ∨ 2 ^ 53 ≤ n.natAbs ∧ 2 ^ 53 ≤ m.natAbs) := by
  have hwords : (Word.half64 : Int) ≤ Word.size64 := by decide
  rcases exists_readInt64?_of_coerce hkind htext hpoint hinput with ⟨m, hread, hbound, rfl⟩
  have hcompare : ∀ comparison, comparison ≠ .like →
      compare ⟨kind, some (.number (.int n))⟩ comparison (.number (.ofInt m)) =
        .ok (comparison.relates (Binary64.rounded n) (Binary64.rounded m)) := by
    intro comparison hlike
    exact compare_int hkind (by omega) (by omega) hlike
  have hmono : n ≤ m → Binary64.rounded n ≤ Binary64.rounded m := Binary64.rounded_mono
  have hmono' : m ≤ n → Binary64.rounded m ≤ Binary64.rounded n := Binary64.rounded_mono
  refine ⟨m, hread, hcompare, hmono, hmono', ⟨?_, ?_⟩, Binary64.eq_of_rounded_eq⟩
  · -- The equality of the rounded integers is told as the equality of the integers.
    intro hexact heq
    have hequal := (hexact .equal (by decide)).symm.trans (hcompare .equal (by decide))
    simp only [Comparison.relates, heq, decide_true, Except.ok.injEq, decide_eq_true_eq] at hequal
    exact hequal
  · intro hsame comparison hlike
    rw [hcompare comparison hlike, Except.ok.injEq]
    cases comparison <;> simp only [Comparison.relates, decide_eq_decide] <;> omega

/-- The cell is the largest integer there is, and the value the largest that can be written; they
are told apart although neither keeps its digits. -/
theorem compare_integers_largest :
    let n : Int := 18446744073709551615
    let text : String := "9223372036854775807"
    let input : Input := .number (.ofInt 9223372036854775807)
    (-(Word.half64 : Int) ≤ n ∧ n < Word.size64) ∧ text ≠ "" ∧ '.' ∉ text.toList ∧
      Input.coerce .duration text = .ok input ∧
      Binary64.rounded n = 18446744073709551616 ∧
      ∀ comparison, comparison ≠ .like →
        compare ⟨.duration, some (.number (.int n))⟩ comparison input =
          .ok (comparison.relates n 9223372036854775807) := by
  intro n text input
  have hn : -(Word.half64 : Int) ≤ n ∧ n < Word.size64 := by decide
  have htext : text ≠ "" := by decide
  have hpoint : '.' ∉ text.toList := by decide
  have hinput : Input.coerce .duration text = .ok input := by decide +kernel
  have hrounded : Binary64.rounded n = 18446744073709551616 := by decide +kernel
  have hrounded' : Binary64.rounded 9223372036854775807 = 9223372036854775808 := by decide +kernel
  rcases compare_integers (.inr (.inr rfl)) hn htext hpoint hinput with
    ⟨m, hread, -, -, -, hexact, -⟩
  have hm : m = 9223372036854775807 := by
    have hsome : Decimal.readInt64? text.toList = some 9223372036854775807 := by decide +kernel
    exact Option.some.inj (hread.symm.trans hsome)
  subst hm
  exact ⟨hn, htext, hpoint, hinput, hrounded, hexact.mpr fun heq =>
    absurd (hrounded.symm.trans (heq.trans hrounded')) (by decide)⟩

/-- An integer of 54 digits is told to be equal to its neighbour. -/
theorem not_compare_integers :
    let n : Int := 9007199254740993
    let text : String := "9007199254740992"
    ∃ input, Input.coerce .number text = .ok input ∧
      Decimal.readInt64? text.toList = some 9007199254740992 ∧
      compare ⟨.number, some (.number (.int n))⟩ .equal input = .ok true ∧
      ¬∀ comparison, comparison ≠ .like →
        compare ⟨.number, some (.number (.int n))⟩ comparison input =
          .ok (comparison.relates n 9007199254740992) := by
  intro n text
  have hequal : compare ⟨.number, some (.number (.int n))⟩ .equal
      (.number (.ofInt 9007199254740992)) = .ok true := by decide +kernel
  refine ⟨.number (.ofInt 9007199254740992), by decide +kernel, by decide +kernel, hequal, ?_⟩
  intro hexact
  have hfalse := hequal.symm.trans (hexact .equal (by decide))
  exact absurd hfalse (by decide)

end Cell

end GridQuery
