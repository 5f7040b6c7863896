import GridQuery.Number.Binary64
import GridQuery.Number.Word
import GridQuery.Text.Split

/-!
# Decimal Numerals

Reading whole numbers and decimal fractions. Digits are the ten ASCII digits; a numeral has no
blanks, no separators and no other base. A fraction is read to its exact value first, a coefficient
times a power of ten, and becomes a double by one rounding of that value.

Exponents beyond any double are settled before a power is formed, so that a short text such as
`1e999999999` costs nothing.

## Main definitions

* `Decimal.readNat?`, `Decimal.readInt64?`, `Decimal.readBelow?`: Whole numbers.
* `Decimal`: A sign, a coefficient and a power of ten.
* `Decimal.read?`: The numeral with optional fraction and exponent.
* `Decimal.toBinary64`: The double nearest to a decimal.
* `Binary64.read?`: The decimal numerals and the names of the infinity and of not-a-number.

## Theorems

* `Decimal.readNat?_toDigits`: The digits of a number are read back as the number.
-/

namespace GridQuery

/-- The number `coefficient * 10 ^ exponent`, with a sign. -/
structure Decimal where
  negative : Bool
  coefficient : Nat
  exponent : Int
  deriving DecidableEq, Repr

namespace Decimal

/-- The number that a row of digits stands for. -/
def ofDigits (digits : List Char) : Nat :=
  Nat.ofDigitChars 10 digits 0

/-- The digits of a number. -/
def digits (n : Nat) : List Char :=
  Nat.toDigits 10 n

/-- The digits of an integer, after a minus sign if it is negative. -/
def signedDigits (n : Int) : List Char :=
  if n < 0 then '-' :: digits n.natAbs else digits n.natAbs

/-- Whether the text begins with a minus sign, and what follows its sign. -/
def takeSign (cs : List Char) : Bool × List Char :=
  match Text.after? '-' cs with
  | some rest => (true, rest)
  | none => (false, (Text.after? '+' cs).getD cs)

/-- One or more digits. -/
def readNat? (cs : List Char) : Option Nat :=
  if !cs.isEmpty && cs.all Char.isDigit then some (ofDigits cs) else none

/-- Digits after an optional plus sign, for a number below the bound. -/
def readBelow? (bound : Nat) (cs : List Char) : Option Nat :=
  (readNat? ((Text.after? '+' cs).getD cs)).filter (· < bound)

/-- Digits after an optional sign, for a number that a signed 64-bit word holds. -/
def readInt64? (cs : List Char) : Option Int :=
  let (negative, unsigned) := takeSign cs
  ((readNat? unsigned).map fun n => if negative then -(n : Int) else n).filter Word.fitsSigned

/-- The exponent that ends a numeral; none is the exponent zero. -/
def readExponent? : List Char → Option Int
  | [] => some 0
  | c :: cs =>
    if c = 'e' ∨ c = 'E' then
      let (negative, unsigned) := takeSign cs
      (readNat? unsigned).map fun n => if negative then -(n : Int) else n
    else none

/-- A numeral: an optional sign, digits with at most one point among or around them, at least one
digit, and an optional exponent. -/
def read? (cs : List Char) : Option Decimal :=
  let (negative, unsigned) := takeSign cs
  let whole := unsigned.takeWhile Char.isDigit
  let rest := unsigned.dropWhile Char.isDigit
  let (fraction, rest) := match Text.after? '.' rest with
    | some rest => (rest.takeWhile Char.isDigit, rest.dropWhile Char.isDigit)
    | none => ([], rest)
  if (whole ++ fraction).isEmpty then none
  else (readExponent? rest).map fun e =>
    ⟨negative, ofDigits (whole ++ fraction), e - fraction.length⟩

/-- The double nearest to a decimal. The coefficient lies between `2 ^ log2` and `10 ^ (log2 + 1)`,
which settles the extreme exponents. -/
def toBinary64 (d : Decimal) : Binary64 :=
  if d.coefficient = 0 then .zero d.negative
  else if 400 < d.exponent then .infinity d.negative
  else if d.exponent + d.coefficient.log2 < -400 then .zero d.negative
  else if 0 ≤ d.exponent then .nearest d.negative (d.coefficient * Nat.pow 10 d.exponent.toNat) 1
  else .nearest d.negative d.coefficient (Nat.pow 10 (-d.exponent).toNat)

theorem readNat?_toDigits (n : Nat) : readNat? (digits n) = some n := by
  have hdigit : (digits n).all Char.isDigit = true := by
    simp only [List.all_eq_true, digits]
    exact fun c hc => Nat.isDigit_of_mem_toDigits (by decide) (by decide) hc
  have hne : (digits n).isEmpty = false := by
    simp [digits, Nat.toDigits_ne_nil]
  rw [readNat?, hdigit, hne]
  simp [ofDigits, digits]

end Decimal

namespace Binary64

/-- The names of the values that have no numeral, in any case and after an optional sign. -/
def readName? (cs : List Char) : Option Binary64 :=
  let (negative, name) := Decimal.takeSign cs
  let is (word : String) : Bool := Text.sameIgnoringCase (.ofList name) word
  if is "inf" || is "infinity" then some (.infinity negative)
  else if is "nan" then some (.nan negative)
  else none

/-- The double that a text names: a numeral, rounded, or one of the names. -/
def read? (cs : List Char) : Option Binary64 :=
  ((Decimal.read? cs).map Decimal.toBinary64).or (readName? cs)

end Binary64

end GridQuery
