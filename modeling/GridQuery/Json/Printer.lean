import GridQuery.Json.Basic
import GridQuery.Number.Shortest

/-!
# Written JSON

Two layouts of a value: compact, on one line and without blanks, and pretty, with one field or item
a line and two blanks of indentation. Strings are written alike in both: the quote, the backslash
and the control characters are escaped, everything else stands for itself.

An integer is written in decimal digits. A double always shows that it is one, by a point or an
exponent; `Number.layout` says where the exponent begins.

## Main definitions

* `Number.text`: The text of a number.
* `Json.quote`: A string in quotes.
* `Json.compact`, `Json.pretty`: The two layouts.
-/

namespace GridQuery

/-- Where a decimal point may stand for a double to be written without an exponent: the count of
digits before the point, negative for zeros after it. -/
structure PointRange where
  least : Int
  most : Int

namespace Number

/-- Doubles from `10 ^ -5` up to but not including `10 ^ 16` have no exponent. -/
def layout : PointRange := ⟨-4, 16⟩

/-- The text of a magnitude given by its digits and the place of its point. -/
def layOut (digits : List Char) (place : Int) : List Char :=
  let count := digits.length
  if layout.least ≤ place ∧ place ≤ layout.most then
    if place ≤ 0 then '0' :: '.' :: List.replicate (-place).toNat '0' ++ digits
    else if count ≤ place.toNat then
      digits ++ List.replicate (place.toNat - count) '0' ++ ['.', '0']
    else digits.take place.toNat ++ '.' :: digits.drop place.toNat
  else
    let exponent := place - 1
    let point := if count = 1 then [] else '.' :: digits.drop 1
    let sign := if exponent < 0 then '-' else '+'
    digits.take 1 ++ point ++ 'e' :: sign :: Decimal.digits exponent.natAbs

/-- The shortest digits that are read back as the double, with a point or an exponent. -/
def doubleText (x : Binary64) : List Char :=
  let d := x.shortest
  let digits := Decimal.digits d.coefficient
  let magnitude :=
    if d.coefficient = 0 then ['0', '.', '0'] else layOut digits (digits.length + d.exponent)
  if x.negative then '-' :: magnitude else magnitude

/-- The text of a number. -/
def text : Number → String
  | .int n => .ofList (Decimal.signedDigits n)
  | .double x => .ofList (doubleText x)

end Number

namespace Json

/-- The digit of a number below sixteen. -/
def hexDigit (n : Nat) : Char :=
  (Nat.toDigits 16 n).headD '0'

/-- A character as it stands between the quotes of a string. -/
def escapeChar (c : Char) : List Char :=
  match c with
  | '"' => ['\\', '"']
  | '\\' => ['\\', '\\']
  | '\n' => ['\\', 'n']
  | '\r' => ['\\', 'r']
  | '\t' => ['\\', 't']
  | '\x08' => ['\\', 'b']
  | '\x0c' => ['\\', 'f']
  | c =>
    if c.toNat < 32 then ['\\', 'u', '0', '0', hexDigit (c.toNat / 16), hexDigit (c.toNat % 16)]
    else [c]

/-- A string in quotes. -/
def quote (s : String) : String :=
  .ofList ('"' :: s.toList.flatMap escapeChar ++ ['"'])

mutual

/-- The value on one line, without blanks. -/
def compact : Json → String
  | .null => "null"
  | .bool true => "true"
  | .bool false => "false"
  | .number n => n.text
  | .string s => quote s
  | .array items => "[" ++ ",".intercalate (compactItems items) ++ "]"
  | .object fields => "\x7b" ++ ",".intercalate (compactFields fields) ++ "\x7d"

def compactItems : List Json → List String
  | [] => []
  | item :: rest => item.compact :: compactItems rest

def compactFields : List (String × Json) → List String
  | [] => []
  | (key, value) :: rest => (quote key ++ ":" ++ value.compact) :: compactFields rest

end

/-- The line end and the blanks before an item at a depth. -/
def indent (depth : Nat) : String :=
  .ofList ('\n' :: List.replicate (2 * depth) ' ')

/-- Lines between brackets; without lines the brackets stand together. -/
def bracket (opening closing : String) (depth : Nat) : List String → String
  | [] => opening ++ closing
  | lines =>
    opening ++ indent (depth + 1) ++ ("," ++ indent (depth + 1)).intercalate lines ++
      indent depth ++ closing

mutual

/-- The value with one field or item a line, at a depth of indentation. -/
def prettyAt (depth : Nat) : Json → String
  | .null => "null"
  | .bool true => "true"
  | .bool false => "false"
  | .number n => n.text
  | .string s => quote s
  | .array items => bracket "[" "]" depth (prettyItems (depth + 1) items)
  | .object fields => bracket "\x7b" "\x7d" depth (prettyFields (depth + 1) fields)

def prettyItems (depth : Nat) : List Json → List String
  | [] => []
  | item :: rest => prettyAt depth item :: prettyItems depth rest

def prettyFields (depth : Nat) : List (String × Json) → List String
  | [] => []
  | (key, value) :: rest =>
    (quote key ++ ": " ++ prettyAt depth value) :: prettyFields depth rest

end

/-- The value with one field or item a line. -/
def pretty (value : Json) : String :=
  prettyAt 0 value

end Json

end GridQuery
