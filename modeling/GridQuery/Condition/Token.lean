import GridQuery.Error
import GridQuery.Text.Blank
import GridQuery.Text.Split

/-!
# Condition Tokens

A condition text is a row of tokens with blanks between them. A literal runs from one quote to the
next and knows no escapes. An operator is the longest one that stands there. Everything else is a
word: it ends at a blank, an operator or a parenthesis, but a quote inside it is a letter like any
other. Three words are keywords, in any case of their letters.

The position of a token is the number of bytes before it in UTF-8.

## Main definitions

* `Token`, `Token.display`: The tokens and how they are shown.
* `Lexeme`: A token with the characters that spell it and those that follow.
* `Token.lexeme`: The token at the start of a text that does not begin with a blank.
* `Token.scan`: The tokens of a text with their positions.

## Theorems

* `Token.span_append_rest`: A lexeme and what follows it are the text.
* `Token.length_rest_lt`: What follows a lexeme is shorter than the text.
-/

namespace GridQuery

/-- A token of a condition. -/
inductive Token
  | quoted (text : String)
  | bare (text : String)
  | and
  | or
  | comparison (comparison : Comparison)
  | openParen
  | closeParen
  deriving DecidableEq, Repr

/-- A token and its position. -/
structure Located where
  token : Token
  position : Nat
  deriving DecidableEq, Repr

/-- A token, the characters that spell it, and the characters after it. -/
structure Lexeme where
  token : Token
  span : List Char
  rest : List Char

namespace Token

/-- How a token is shown; keywords are shown in capitals. -/
def display : Token → String
  | .quoted text => "'" ++ text ++ "'"
  | .bare text => text
  | .and => "AND"
  | .or => "OR"
  | .comparison .like => "LIKE"
  | .comparison c => c.symbol
  | .openParen => "("
  | .closeParen => ")"

/-- The characters of which operators and parentheses are made. -/
def isOperatorChar (c : Char) : Bool :=
  c = '=' || c = '!' || c = '<' || c = '>' || c = '(' || c = ')'

/-- The characters of words. -/
def isWordChar (c : Char) : Bool :=
  !Text.isBlank c && !isOperatorChar c

/-- The keyword that a word is, or the word. -/
def ofWord (word : String) : Token :=
  if Text.sameIgnoringCase word "and" then .and
  else if Text.sameIgnoringCase word "or" then .or
  else if Text.sameIgnoringCase word "like" then .comparison .like
  else .bare word

/-- The number of bytes of characters in UTF-8. -/
def byteSize : List Char → Nat
  | [] => 0
  | c :: cs => c.utf8Size + byteSize cs

/-- The operators; where two of them begin alike, the longer one comes first. -/
def operators : List (List Char × Comparison) :=
  [(['!', '='], .unequal), (['<', '>'], .unequal), (['<', '='], .lessEqual),
    (['>', '='], .greaterEqual), (['='], .equal), (['<'], .less), (['>'], .greater)]

/-- The token that a character which is no blank begins. A literal that does not end is reported at
the position of its quote, and what is the start of an operator only, as a token of its own. -/
def lexeme (position : Nat) (c : Char) (rest : List Char) : Except SyntaxError Lexeme :=
  if c = '\'' then
    match Text.cut '\'' rest with
    | none => .error (.unterminatedString position)
    | some (content, rest) =>
      .ok ⟨.quoted (.ofList content), '\'' :: content ++ ['\''], rest⟩
  else if c = '(' then .ok ⟨.openParen, [c], rest⟩
  else if c = ')' then .ok ⟨.closeParen, [c], rest⟩
  else if isOperatorChar c then
    match operators.find? fun (spelling, _) => spelling.isPrefixOf (c :: rest) with
    | none => .error (.unexpectedToken (.ofList [c]))
    | some (spelling, op) =>
      .ok ⟨.comparison op, spelling, (c :: rest).drop spelling.length⟩
  else
    let word := c :: rest.takeWhile isWordChar
    .ok ⟨ofWord (.ofList word), word, rest.dropWhile isWordChar⟩

theorem span_append_rest {position : Nat} {c : Char} {rest : List Char} {x : Lexeme}
    (h : lexeme position c rest = .ok x) : x.span ++ x.rest = c :: rest := by
  -- One case for each kind of lexeme, in the order in which they are tried.
  unfold lexeme at h
  split at h
  · next hc =>
      split at h
      · simp at h
      · next hcut =>
          cases h
          simp [hc, Text.eq_append_of_cut hcut]
  · split at h
    · cases h
      rfl
    · split at h
      · cases h
        rfl
      · split at h
        · split at h
          · simp at h
          · next spelling op hfind =>
              cases h
              -- The operator was found as a prefix, so what is left is what follows it.
              have hpre : spelling <+: c :: rest := by
                have := List.find?_some hfind
                simpa using this
              exact (List.prefix_iff_eq_append.1 hpre)
        · cases h
          simp

theorem span_ne_nil {position : Nat} {c : Char} {rest : List Char} {x : Lexeme}
    (h : lexeme position c rest = .ok x) : x.span ≠ [] := by
  unfold lexeme at h
  split at h
  · split at h
    · simp at h
    · cases h
      simp
  · split at h
    · cases h
      simp
    · split at h
      · cases h
        simp
      · split at h
        · split at h
          · simp at h
          · next spelling op hfind =>
              cases h
              -- No operator in the table is written as nothing.
              have hmem := List.mem_of_find?_eq_some hfind
              simp only [operators, List.mem_cons, Prod.mk.injEq, List.not_mem_nil, or_false]
                at hmem
              rintro rfl
              simp at hmem
        · cases h
          simp

theorem length_rest_lt {position : Nat} {c : Char} {rest : List Char} {x : Lexeme}
    (h : lexeme position c rest = .ok x) : x.rest.length < (c :: rest).length := by
  rw [← span_append_rest h, List.length_append]
  have := List.length_pos_iff.2 (span_ne_nil h)
  omega

/-- The tokens of a text that begins at a position. -/
def scanFrom (position : Nat) (cs : List Char) : Except SyntaxError (List Located) :=
  match cs with
  | [] => .ok []
  | c :: rest =>
    if Text.isBlank c then scanFrom (position + c.utf8Size) rest
    else match _h : lexeme position c rest with
      | .error e => .error e
      | .ok x =>
        (scanFrom (position + byteSize x.span) x.rest).map fun tokens =>
          ⟨x.token, position⟩ :: tokens
termination_by cs.length
decreasing_by
  · simp
  · exact length_rest_lt ‹_›

/-- The tokens of a text. -/
def scan (s : String) : Except SyntaxError (List Located) :=
  scanFrom 0 s.toList

end Token

end GridQuery
