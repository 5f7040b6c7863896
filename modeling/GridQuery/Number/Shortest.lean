import GridQuery.Number.Decimal

/-!
# Shortest Decimals

The text of a double shows the fewest digits that are read back as the same double, and of those
digits the ones nearest to its value.

For a given count of digits the decimals stand on a grid, and if any of them is read back as the
double then so is one of the two grid points around its value. So the search looks at the counts in
turn and tests these two points, in exact arithmetic. Seventeen digits always suffice; the exact
expansion that ends the search keeps the function total without appealing to that fact.

## Main definitions

* `Shortest.decade`: The power of ten at or below a fraction.
* `Shortest.candidate?`: The point of a grid that is read back, the nearer of two.
* `Shortest.exact`: The exact value of a double.
* `Binary64.shortest`: The shortest decimal of a double.
-/

namespace GridQuery

namespace Shortest

/-- Counts the factors of ten to multiply a fraction below one by until it is at least one. -/
def scaleUp : Nat → Nat → Nat → Nat
  | 0, _, _ => 0
  | fuel + 1, num, den => if den ≤ num then 0 else scaleUp fuel (num * 10) den + 1

/-- The exponent of the largest power of ten that is at most the fraction. -/
def decade (num den : Nat) : Int :=
  if den ≤ num then ((Decimal.digits (num / den)).length : Int) - 1
  else -(scaleUp 400 num den : Int)

/-- The decimal without the zeros at the end of its coefficient. -/
def stripZeros : Nat → Decimal → Decimal
  | 0, d => d
  | fuel + 1, d =>
    if d.coefficient % 10 = 0 then
      stripZeros fuel { d with coefficient := d.coefficient / 10, exponent := d.exponent + 1 }
    else d

/-- The magnitude of a double as a fraction in lowest use: units over units per one. -/
def fraction (x : Binary64) : Nat × Nat :=
  (Binary64.units x.magnitude, Binary64.unitsPerOne)

/-- Of the two multiples of `10 ^ exponent` around the magnitude, the one that is read back as the
double; of two such the nearer, and of two as near the even one. -/
def candidate? (x : Binary64) (exponent : Int) : Option Decimal :=
  let (num, den) := fraction x
  let num := num * Nat.pow 10 (-exponent).toNat
  let den := den * Nat.pow 10 exponent.toNat
  let below : Decimal := ⟨x.negative, num / den, exponent⟩
  let above : Decimal := ⟨x.negative, num / den + 1, exponent⟩
  let nearer := if Binary64.roundDiv num den = num / den then [below, above] else [above, below]
  nearer.find? fun d => d.coefficient != 0 && d.toBinary64 == x

/-- The exact value of a double. -/
def exact (x : Binary64) : Decimal :=
  ⟨x.negative, (fraction x).1 * Nat.pow 5 1074, -1074⟩

/-- The candidate of the first grid that has one, or the exact value. -/
def search (x : Binary64) (exponents : List Int) : Decimal :=
  (exponents.findSome? (candidate? x)).getD (exact x)

end Shortest

namespace Binary64

/-- The decimal with the fewest digits that is read back as the double, a finite one. -/
def shortest (x : Binary64) : Decimal :=
  if x.isZero then ⟨x.negative, 0, 0⟩
  else
    let (num, den) := Shortest.fraction x
    let top := Shortest.decade num den
    Shortest.stripZeros 400 <| Shortest.search x <| (List.range 17).map fun (n : Nat) => top - n

end Binary64

end GridQuery
