import GridQuery.Calendar.Timestamp
import GridQuery.Json.Basic
import GridQuery.Text.Reader

/-!
# Scalars of a TOML Document

Strings in their four forms, and the words that stand for numbers, truth values and times. A word
is everything up to the next blank, bracket, comma or comment, and it is a scalar as a whole or not
at all; only a date may have a second word, its time.

Numbers may have single underscores between their digits, integers a base other than ten, and
integers have 64 bits. A double that is too large is refused. JSON has no times: a date or a time
becomes an object that holds its text.

## Main definitions

* `Toml.basicText`, `Toml.literalText`: Strings in double and in single quotes.
* `Toml.string`: A string in any form.
* `Toml.word?`: What a word stands for.
* `Toml.wordValue`: The scalar that begins with a word.
-/

namespace GridQuery

namespace Toml

open Text (Reader)

/-- A blank inside a line. -/
def isSpace (c : Char) : Bool :=
  c = ' ' || c = '\t'

def skipSpace (cs : List Char) : List Char :=
  cs.dropWhile isSpace

/-- A character that may stand in a comment or a string: no control character but the tab. -/
def isPrintable (c : Char) : Bool :=
  c = '\t' || (32 ≤ c.toNat && c.toNat ≠ 127)

/-- The text after a line end at its start. -/
def newline? : List Char → Option (List Char)
  | '\n' :: rest => some rest
  | '\r' :: '\n' :: rest => some rest
  | _ => none

/-- The character with a hexadecimal number, if there is one. -/
def scalarValue? (digits : List Char) : Option Char := do
  let n ← digits.foldlM (fun n c => do some (n * 16 + (← Text.hexValue? c))) 0
  if n < 0xD800 ∨ (0xDFFF < n ∧ n < 0x110000) then some (.ofNat n) else none

/-- The character that a short escape stands for. -/
def shortEscape? : Char → Option Char
  | 'b' => some '\x08'
  | 't' => some '\t'
  | 'n' => some '\n'
  | 'f' => some '\x0c'
  | 'r' => some '\r'
  | '"' => some '"'
  | '\\' => some '\\'
  | _ => none

/-- A character before what is read next. -/
def prepend (c : Char) : Option (List Char × List Char) → Option (List Char × List Char) :=
  Option.map fun (chars, rest) => (c :: chars, rest)

/-- The characters up to the closing double quote, on one line. -/
def basicText : Reader (List Char)
  | [] => none
  | '"' :: rest => some ([], rest)
  | '\\' :: 'u' :: a :: b :: c :: d :: rest => do
    prepend (← scalarValue? [a, b, c, d]) (basicText rest)
  | '\\' :: 'U' :: a :: b :: c :: d :: e :: f :: g :: h :: rest => do
    prepend (← scalarValue? [a, b, c, d, e, f, g, h]) (basicText rest)
  | '\\' :: c :: rest => do prepend (← shortEscape? c) (basicText rest)
  | c :: rest => if isPrintable c then prepend c (basicText rest) else none

/-- The characters up to the closing single quote, on one line. -/
def literalText : Reader (List Char)
  | [] => none
  | c :: rest =>
    if c = '\'' then some ([], rest)
    else if isPrintable c then prepend c (literalText rest)
    else none

/-- The rest of a line is blank. -/
def endsLine (cs : List Char) : Bool :=
  (newline? (skipSpace cs)).isSome

/-- The characters up to three closing double quotes, up to two more of which belong to the text. A
backslash at the end of a line takes the following blanks and line ends with it. -/
def basicLines : Bool → Reader (List Char)
  | _, [] => none
  | _, '"' :: '"' :: '"' :: '"' :: '"' :: rest => some (['"', '"'], rest)
  | _, '"' :: '"' :: '"' :: '"' :: rest => some (['"'], rest)
  | _, '"' :: '"' :: '"' :: rest => some ([], rest)
  | skipping, '\r' :: '\n' :: rest =>
    if skipping then basicLines true rest else prepend '\n' (basicLines false rest)
  | _, '\\' :: 'u' :: a :: b :: c :: d :: rest => do
    prepend (← scalarValue? [a, b, c, d]) (basicLines false rest)
  | _, '\\' :: 'U' :: a :: b :: c :: d :: e :: f :: g :: h :: rest => do
    prepend (← scalarValue? [a, b, c, d, e, f, g, h]) (basicLines false rest)
  | _, '\\' :: c :: rest =>
    if endsLine (c :: rest) then basicLines true (c :: rest)
    else do prepend (← shortEscape? c) (basicLines false rest)
  | skipping, c :: rest =>
    if c = '\n' || isSpace c then
      if skipping then basicLines true rest else prepend c (basicLines false rest)
    else if isPrintable c then prepend c (basicLines false rest)
    else none

/-- The characters up to three closing single quotes, up to two more of which belong to the text. -/
def literalLines : Reader (List Char)
  | [] => none
  | '\'' :: '\'' :: '\'' :: '\'' :: '\'' :: rest => some (['\'', '\''], rest)
  | '\'' :: '\'' :: '\'' :: '\'' :: rest => some (['\''], rest)
  | '\'' :: '\'' :: '\'' :: rest => some ([], rest)
  | '\r' :: '\n' :: rest => prepend '\n' (literalLines rest)
  | c :: rest => if c = '\n' || isPrintable c then prepend c (literalLines rest) else none

/-- The text without a line end at its start. -/
def dropNewline (cs : List Char) : List Char :=
  (newline? cs).getD cs

/-- A string in any form, from its opening quotes on. -/
def string : Reader (List Char)
  | '"' :: '"' :: '"' :: rest => basicLines false (dropNewline rest)
  | '\'' :: '\'' :: '\'' :: rest => literalLines (dropNewline rest)
  | '"' :: rest => basicText rest
  | '\'' :: rest => literalText rest
  | _ => none

/-- A digit of a base up to sixteen. -/
def isDigitOf (base : Nat) (c : Char) : Bool :=
  (Text.hexValue? c).any (· < base)

/-- Digits of a base with single underscores between them; gives the digits. -/
def digits? (base : Nat) (cs : List Char) : Option (List Char) :=
  let groups := Text.splitOn '_' cs
  if groups.all fun group => !group.isEmpty && group.all (isDigitOf base) then some groups.flatten
  else none

/-- The number of digits of a base. -/
def ofDigits (base : Nat) (digits : List Char) : Nat :=
  digits.foldl (fun n c => n * base + (Text.hexValue? c).getD 0) 0

/-- A number that 64 bits with a sign hold. -/
def int64? (n : Int) : Option Json :=
  if Word.fitsSigned n then some (.number (.int n)) else none

/-- Decimal digits, with no zero at the start of more than one. -/
def whole? (cs : List Char) : Option (List Char) :=
  (digits? 10 cs).filter fun ds => ds.length ≤ 1 || ds.head? ≠ some '0'

/-- An integer of another base. -/
def based? (base : Nat) (cs : List Char) : Option Json :=
  (digits? base cs).bind fun ds => int64? (ofDigits base ds)

/-- An integer. -/
def integer? : List Char → Option Json
  | '0' :: 'x' :: cs => based? 16 cs
  | '0' :: 'o' :: cs => based? 8 cs
  | '0' :: 'b' :: cs => based? 2 cs
  | cs =>
    let (negative, unsigned) := Decimal.takeSign cs
    (whole? unsigned).bind fun ds =>
      int64? (if negative then -(ofDigits 10 ds : Int) else ofDigits 10 ds)

/-- A character that begins an exponent. -/
def isExponentMark (c : Char) : Bool :=
  c = 'e' || c = 'E'

/-- A double with a fraction or an exponent. -/
def fractional? (cs : List Char) : Option Binary64 := do
  let (_, unsigned) := Decimal.takeSign cs
  let mantissa := unsigned.takeWhile fun c => !isExponentMark c
  let exponent := (unsigned.drop mantissa.length).drop 1
  let (whole, fraction) := (Text.cut '.' mantissa).elim (mantissa, none) fun (w, f) => (w, some f)
  let _ ← whole? whole
  if fraction.isNone && mantissa.length = unsigned.length then none
  else
    let _ ← fraction.elim (some []) (digits? 10)
    let _ ← if mantissa.length = unsigned.length then some []
      else digits? 10 (Decimal.takeSign exponent).2
    let x ← Binary64.read? (cs.filter (· ≠ '_'))
    if x = .infinity false then none else some x

/-- The infinity and the value that is no number, by name. -/
def named? (cs : List Char) : Option Binary64 :=
  let (negative, name) := Decimal.takeSign cs
  if name = ['i', 'n', 'f'] then some (.infinity negative)
  else if name = ['n', 'a', 'n'] then some (.nan negative)
  else none

/-- The text is a date: year, month and day in fixed width, of the calendar. -/
def isDate : List Char → Bool
  | [y, e, a, r, '-', m, n, '-', d, f] =>
    ((Decimal.readNat? [y, e, a, r]).bind fun year => (Timestamp.twoDigits? m n).bind fun month =>
      (Timestamp.twoDigits? d f).bind fun day => Date.ofCivil? year month day).isSome
  | _ => false

/-- The text is a time of day, with a leap second and a fraction allowed; in a zone, an offset may
follow. -/
def isClock (zoned : Bool) : List Char → Bool
  | h :: i :: ':' :: j :: k :: ':' :: p :: q :: rest =>
    (Timestamp.twoDigits? h i).any (· < 24) && (Timestamp.twoDigits? j k).any (· < 60) &&
      (Timestamp.twoDigits? p q).any (· ≤ 60) &&
      match Timestamp.takeFraction? rest with
      | some (_, []) => true
      | some (_, offset) =>
        zoned && !offset.contains '\u2212' && (Timestamp.readOffset? offset).isSome
      | none => false
  | _ => false

/-- A date or a time. -/
def moment (cs : List Char) : Json :=
  .object [("time", .string (.ofList cs))]

/-- The text is a date, a time, or both with a letter between them. -/
def isMoment (cs : List Char) : Bool :=
  isDate cs || isClock false cs ||
    (isDate (cs.take 10) && ((cs.drop 10).take 1 == ['T'] || (cs.drop 10).take 1 == ['t']) &&
      isClock true (cs.drop 11))

/-- What a word stands for. -/
def word? (cs : List Char) : Option Json :=
  if cs = ['t', 'r', 'u', 'e'] then some (.bool true)
  else if cs = ['f', 'a', 'l', 's', 'e'] then some (.bool false)
  else if isMoment cs then some (moment cs)
  else (integer? cs).or (((fractional? cs).or (named? cs)).map fun x => .number (.double x))

/-- A character of a word. -/
def isWordChar (c : Char) : Bool :=
  c.isAlphanum || c = '+' || c = '-' || c = '.' || c = ':' || c = '_'

/-- The scalar that begins with a word; a time may follow a date after one blank. -/
def wordValue : Reader Json := fun cs =>
  let word := cs.takeWhile isWordChar
  let rest := cs.dropWhile isWordChar
  let clock := (rest.drop 1).takeWhile isWordChar
  if isDate word && rest.head? = some ' ' && !clock.isEmpty then
    if isClock true clock then
      some (moment (word ++ ' ' :: clock), (rest.drop 1).dropWhile isWordChar)
    else none
  else (word? word).map fun value => (value, rest)

end Toml

end GridQuery
