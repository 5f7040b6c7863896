/-!
# Binary64 Numbers

A double is kept as its sign and its magnitude code: the 63 bits below the sign bit, read as a
natural number. That choice makes everything the library does with doubles a statement about
natural numbers. Larger codes are larger magnitudes, so comparing two doubles is comparing two
integers; a finite code stands for a whole number of units of `2 ^ -1074`, so its exact value is a
fraction; and rounding is one integer division. The machine's own `Float` is not used, because its
operations have no meaning in the logic.

The codes from `infinityCode` on are the infinity and the values that are not a number.

## Main definitions

* `Binary64`: A sign and a magnitude code.
* `Binary64.units`: The exact magnitude of a code, in units of `2 ^ -1074`.
* `Binary64.nearest`: The double nearest to a fraction, ties to the even code.
* `Binary64.order?`: How two doubles compare, if neither is not-a-number.
* `Binary64.bits`: The 64-bit word of a double.

## Theorems

* `Binary64.roundDiv_eq_div_or`: Rounding a quotient gives its floor or the number after it.
* `Binary64.order?_self`: A double that is a number equals itself.
-/

namespace GridQuery

/-- The sign bit of a word; the codes of magnitudes are below it. -/
def Binary64.signBit : Nat := 0x8000000000000000

/-- A sign and the code of a magnitude. -/
structure Binary64 where
  negative : Bool
  magnitude : Nat
  magnitude_lt : magnitude < Binary64.signBit
  deriving DecidableEq, Repr

namespace Binary64

/-- The number of codes that share an exponent. -/
def fractionCount : Nat := 0x10000000000000

/-- The code of the infinite magnitude. -/
def infinityCode : Nat := 2047 * fractionCount

theorem infinityCode_lt : infinityCode < signBit := by decide

/-- The double with a sign and a code; codes past the infinity become the infinity. -/
def ofCode (negative : Bool) (code : Nat) : Binary64 :=
  ⟨negative, min code infinityCode, by have := infinityCode_lt; omega⟩

def zero (negative : Bool) : Binary64 := ofCode negative 0

def infinity (negative : Bool) : Binary64 := ofCode negative infinityCode

/-- The quiet value that is not a number. -/
def nan (negative : Bool) : Binary64 :=
  ⟨negative, infinityCode + fractionCount / 2, by decide⟩

def isNaN (x : Binary64) : Bool := infinityCode < x.magnitude

def isFinite (x : Binary64) : Bool := x.magnitude < infinityCode

def isZero (x : Binary64) : Bool := x.magnitude == 0

/-- The 64-bit word of a double: the sign bit and then the magnitude code. -/
def bits (x : Binary64) : Nat :=
  (if x.negative then signBit else 0) + x.magnitude

/-- The exact magnitude of a finite code, counted in units of `2 ^ -1074`. -/
def units (code : Nat) : Nat :=
  let exponent := code / fractionCount
  let fraction := code % fractionCount
  if exponent = 0 then fraction else (fractionCount + fraction) * Nat.pow 2 (exponent - 1)

/-- The denominator of a magnitude counted in units. -/
def unitsPerOne : Nat := Nat.pow 2 1074

/-- A quotient rounded to the nearest number, a half to the even neighbour. -/
def roundDiv (num den : Nat) : Nat :=
  let q := num / den
  let r := num % den
  if 2 * r < den then q
  else if 2 * r = den then (if q % 2 = 0 then q else q + 1)
  else q + 1

/-- The code nearest to a positive fraction. Codes with a common exponent stand `2 ^ shift` units
apart, where the shift keeps 53 digits of the quotient; a quotient that rounds up to the next power
of two has the code that follows. -/
def nearestCode (num den : Nat) : Nat :=
  let scaled := num * unitsPerOne
  let shift := (scaled / den).log2 - 52
  shift * fractionCount + roundDiv scaled (den * Nat.pow 2 shift)

/-- The double nearest to a fraction with a sign, ties to the even code, too large ones infinite. -/
def nearest (negative : Bool) (num den : Nat) : Binary64 :=
  ofCode negative (nearestCode num den)

/-- The double nearest to an integer. -/
def ofInt (n : Int) : Binary64 :=
  nearest (n < 0) n.natAbs 1

/-- The product of two finite doubles, rounded. -/
def mul (x y : Binary64) : Binary64 :=
  nearest (x.negative != y.negative) (units x.magnitude * units y.magnitude)
    (unitsPerOne * unitsPerOne)

/-- The quotient of two finite doubles, the second not zero, rounded. -/
def div (x y : Binary64) : Binary64 :=
  nearest (x.negative != y.negative) (units x.magnitude) (units y.magnitude)

/-- The place of a double among the numbers; both zeros have the same. -/
def key (x : Binary64) : Int :=
  if x.negative then -(x.magnitude : Int) else x.magnitude

/-- How two doubles compare; not-a-number compares with nothing. -/
def order? (x y : Binary64) : Option Ordering :=
  if x.isNaN || y.isNaN then none else some (compare x.key y.key)

theorem roundDiv_eq_div_or (num den : Nat) :
    roundDiv num den = num / den ∨ roundDiv num den = num / den + 1 := by
  simp only [roundDiv]
  split
  · exact Or.inl rfl
  · split
    · split
      · exact Or.inl rfl
      · exact Or.inr rfl
    · exact Or.inr rfl

theorem order?_self {x : Binary64} (h : x.isNaN = false) : x.order? x = some .eq := by
  simp [order?, h, compare, compareOfLessAndEq]

end Binary64

end GridQuery
