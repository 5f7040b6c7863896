import GridQuery.Condition.Token

/-!
# Conditions

A condition is a tree of comparisons joined by conjunctions. Texts give only some of the trees: the
grammar is a chain of comparisons, read from the left without precedence, so that every right
child is a single comparison.

    condition  = comparison { ("and" | "or") comparison }
    comparison = operand operator operand
    operand    = literal | word

## Main definitions

* `Condition`: The trees.
* `Condition.ofTokens`: The condition that a row of tokens is.
* `Condition.parse`: The condition that a text is.

## Theorems

* `Condition.length_of_takeLeaf`: What follows a comparison is shorter than the tokens.
-/

namespace GridQuery

/-- How two conditions are joined. -/
inductive Conjunction
  | and
  | or
  deriving DecidableEq, Repr

/-- A comparison of a column with a value. -/
structure Leaf where
  column : String
  comparison : Comparison
  value : String
  deriving DecidableEq, Repr

/-- A tree of comparisons. -/
inductive Condition
  | leaf (leaf : Leaf)
  | merge (conjunction : Conjunction) (left right : Condition)
  deriving DecidableEq, Repr

/-- The conjunction that a token is. -/
def Token.conjunction? : Token → Option Conjunction
  | .and => some .and
  | .or => some .or
  | _ => none

/-- The operand that a token is. -/
def Token.operand? : Token → Option String
  | .quoted text | .bare text => some text
  | _ => none

/-- The operator that a token is. -/
def Token.operator? : Token → Option Comparison
  | .comparison c => some c
  | _ => none

namespace Condition

/-- What the next token has to be; the wrong token and the end of the tokens are errors. -/
def expect {α : Type} (view : Token → Option α) : List Token → Except SyntaxError (α × List Token)
  | [] => .error .unexpectedEnd
  | token :: rest =>
    match view token with
    | some a => .ok (a, rest)
    | none => .error (.unexpectedToken token.display)

/-- The comparison at the start of the tokens. -/
def takeLeaf (tokens : List Token) : Except SyntaxError (Leaf × List Token) := do
  let (column, rest) ← expect Token.operand? tokens
  let (comparison, rest) ← expect Token.operator? rest
  let (value, rest) ← expect Token.operand? rest
  .ok (⟨column, comparison, value⟩, rest)

theorem length_of_expect {α : Type} {view : Token → Option α} {tokens rest : List Token} {a : α}
    (h : expect view tokens = .ok (a, rest)) : rest.length < tokens.length := by
  cases tokens with
  | nil => simp [expect] at h
  | cons token tokens =>
      simp only [expect] at h
      split at h
      · cases h
        simp
      · simp at h

theorem length_of_takeLeaf {tokens rest : List Token} {leaf : Leaf}
    (h : takeLeaf tokens = .ok (leaf, rest)) : rest.length < tokens.length := by
  unfold takeLeaf at h
  -- A leaf is three tokens, and each of the three readers takes one.
  rcases h₁ : expect Token.operand? tokens with e | ⟨column, rest₁⟩
  · simp [h₁, bind, Except.bind] at h
  rcases h₂ : expect Token.operator? rest₁ with e | ⟨comparison, rest₂⟩
  · simp [h₁, h₂, bind, Except.bind] at h
  rcases h₃ : expect Token.operand? rest₂ with e | ⟨value, rest₃⟩
  · simp [h₁, h₂, h₃, bind, Except.bind] at h
  simp only [h₁, h₂, h₃, bind, Except.bind, Except.ok.injEq, Prod.mk.injEq] at h
  have := length_of_expect h₁
  have := length_of_expect h₂
  have := length_of_expect h₃
  rw [← h.2]
  omega

/-- Joins comparisons to a condition for as long as a conjunction follows. -/
def chain (left : Condition) (tokens : List Token) : Except SyntaxError Condition :=
  match tokens with
  | [] => .ok left
  | token :: rest =>
    match token.conjunction? with
    | none => .error (.unexpectedToken token.display)
    | some conjunction =>
      match _h : takeLeaf rest with
      | .error e => .error e
      | .ok (right, rest) => chain (.merge conjunction left (.leaf right)) rest
termination_by tokens.length
decreasing_by
  have := length_of_takeLeaf ‹_›
  simp only [List.length_cons]
  omega

/-- The condition that a row of tokens is. -/
def ofTokens (tokens : List Token) : Except SyntaxError Condition := do
  let (first, rest) ← takeLeaf tokens
  chain (.leaf first) rest

/-- The condition that a text is, without the blanks around it. -/
def parse (s : String) : Except SyntaxError Condition := do
  let trimmed := Text.trim s
  if trimmed.isEmpty then .error .emptyCondition
  else ofTokens ((← Token.scan trimmed).map Located.token)

end Condition

end GridQuery
