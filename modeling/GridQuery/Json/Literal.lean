import GridQuery.Json.Basic
import GridQuery.Number.Decimal

/-!
# JSON Number Literals

An integer literal that fits a signed or an unsigned 64-bit word is an integer; every other literal
is a double, `-0` among them.

A double is read through a 64-bit significand: the leading digits that fit are kept, later ones
only move the point. The significand becomes a double, and one multiplication or division by a
power of ten moves the point, so that at most two roundings happen. Powers past `10 ^ 308` are
divided off in steps. A literal too large for a double is refused.

## Main definitions

* `Literal`: The parts of a number literal as written.
* `Literal.number?`: The number that a literal stands for.
-/

namespace GridQuery

/-- A number literal as written: its digits before the point and after it, and its exponent. -/
structure Literal where
  negative : Bool
  whole : List Char
  fraction : Option (List Char)
  exponent : Option Int
  deriving DecidableEq, Repr

namespace Literal

/-- Appends digits to a significand as long as they fit; also gives how many did. -/
def append (significand : Nat) : List Char → Nat × Nat
  | [] => (significand, 0)
  | c :: cs =>
    let next := significand * 10 + Decimal.ofDigits [c]
    if next < Word.size64 then
      let (total, count) := append next cs
      (total, count + 1)
    else (significand, 0)

/-- The significand of a literal and the power of ten that it is to be multiplied by. -/
def parts (l : Literal) : Nat × Int :=
  let fraction := l.fraction.getD []
  let (whole, kept) := append 0 l.whole
  let (significand, shifted) := append whole fraction
  (significand, ((l.whole.length - kept : Nat) : Int) - shifted + l.exponent.getD 0)

/-- The largest power of ten that is one step of scaling. -/
def step : Nat := 308

/-- A double divided by a power of ten. -/
def lower (x : Binary64) (power : Nat) : Binary64 :=
  x.div (.nearest false (Nat.pow 10 power) 1)

/-- A significand times a power of ten. A significand is below `10 ^ 20`, so two steps down make it
zero. -/
def scale? (significand : Nat) (power : Int) : Option Binary64 :=
  let x := Binary64.nearest false significand 1
  if significand = 0 then some x
  else if (step : Int) < power then none
  else if 0 ≤ power then
    let scaled := x.mul (.nearest false (Nat.pow 10 power.toNat) 1)
    if scaled.isFinite then some scaled else none
  else if -(step : Int) ≤ power then some (lower x power.natAbs)
  else if -(2 * step : Int) ≤ power then some (lower (lower x step) (power.natAbs - step))
  else some (.zero false)

/-- The double that a literal stands for, if it is not too large. -/
def double? (l : Literal) : Option Binary64 :=
  let (significand, power) := l.parts
  (scale? significand power).map fun x => { x with negative := l.negative }

/-- The integer that a literal stands for, if it is written as one and fits 64 bits. -/
def int? (l : Literal) : Option Int :=
  if l.fraction.isSome || l.exponent.isSome then none
  else
    let n := Decimal.ofDigits l.whole
    if l.negative then if 0 < n ∧ n ≤ Word.half64 then some (-n) else none
    else if n < Word.size64 then some n else none

/-- The number that a literal stands for, if it is not too large for a double. -/
def number? (l : Literal) : Option Number :=
  match l.int? with
  | some n => some (.int n)
  | none => l.double?.map .double

/-- One or more digits at the start of a text, and the rest. -/
def takeDigits? (cs : List Char) : Option (List Char × List Char) :=
  let digits := cs.takeWhile Char.isDigit
  if digits.isEmpty then none else some (digits, cs.dropWhile Char.isDigit)

/-- The fraction at the start of a text: none without a point, and digits after a point. -/
def takeFraction? : List Char → Option (Option (List Char) × List Char)
  | '.' :: cs => (takeDigits? cs).map fun (digits, rest) => (some digits, rest)
  | cs => some (none, cs)

/-- The exponent at the start of a text: none without its letter, and digits after it. -/
def takeExponent? : List Char → Option (Option Int × List Char)
  | [] => some (none, [])
  | c :: cs =>
    if c = 'e' ∨ c = 'E' then
      let (negative, unsigned) := Decimal.takeSign cs
      (takeDigits? unsigned).map fun (digits, rest) =>
        let n : Int := Decimal.ofDigits digits
        (some (if negative then -n else n), rest)
    else some (none, c :: cs)

/-- The number literal at the start of a text, and the rest; a zero begins no longer number. -/
def take? (cs : List Char) : Option (Literal × List Char) := do
  let (negative, unsigned) := match cs with
    | '-' :: rest => (true, rest)
    | _ => (false, cs)
  let (whole, rest) ← takeDigits? unsigned
  if whole.head? = some '0' ∧ 1 < whole.length then none
  else do
    let (fraction, rest) ← takeFraction? rest
    let (exponent, rest) ← takeExponent? rest
    some (⟨negative, whole, fraction, exponent⟩, rest)

end Literal

end GridQuery
