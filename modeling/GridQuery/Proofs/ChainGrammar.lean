import GridQuery.Condition.Basic
import GridQuery.Proofs.Outcome

/-!
# The Grammar of Conditions

The conditions that texts can give, by a grammar on their tokens, and that reading follows it.

    expression = filter { ("and" | "or") filter }
    filter     = factor operator factor
    factor     = literal | word

The grammar is a family of relations between rows of tokens and what they stand for. A filter
stands for a comparison, and what follows the first filter for a list of links, each a conjunction
with the comparison after it. The condition of an expression is made of the comparisons in a second
step, by folding the links from the left. Keeping the two apart is what makes the shape of the tree
visible: `chainOf` looks at a conjunction only to put it into the tree, so neither of the two can
bind tighter than the other, and its right children are the comparisons of the links.

Reading takes tokens off the front of a row. The lemmas on it therefore say of each part of the
reader which prefix it takes and what is left, in both directions at once: what it takes is derived
by the grammar, and whatever the grammar derives at the front is taken.

## Main definitions

* `Token.IsFactor`, `Token.IsJoint`: The tokens that are operands and conjunctions.
* `IsFilter`, `IsTail`, `IsExpression`: The grammar.
* `Condition.chainOf`: The condition of a comparison and the links after it.
* `Condition.RightLeaves`: Every right child is a single comparison.

## Theorems

* `takeLeaf_eq_ok_iff`: The reader takes a comparison where a filter stands.
* `chain_eq_ok_iff`: What follows the first comparison is read to the end, as links.
* `ofTokens_eq_ok_iff`: The rows of tokens that are read are the expressions.
* `rightLeaves_chainOf`: In a chain every right child is a single comparison.
* `parse_eq_ok_iff`: A condition is read from the tokens of its text.
* `parse_eq_ok_iff_isExpression`: The texts that are read, and the conditions that they give.
-/

namespace GridQuery

/-- The token is an operand with a text. -/
inductive Token.IsFactor : Token → String → Prop
  | quoted (text : String) : IsFactor (.quoted text) text
  | bare (text : String) : IsFactor (.bare text) text

/-- The token is a conjunction. -/
inductive Token.IsJoint : Token → Conjunction → Prop
  | and : IsJoint .and .and
  | or : IsJoint .or .or

/-- The tokens are a factor, an operator and a factor. -/
inductive IsFilter : List Token → Leaf → Prop
  | mk {left right : Token} {column value : String} (op : Comparison) :
    left.IsFactor column → right.IsFactor value →
      IsFilter [left, .comparison op, right] ⟨column, op, value⟩

/-- The tokens are any number of filters, each after a conjunction. -/
inductive IsTail : List Token → List (Conjunction × Leaf) → Prop
  | nil : IsTail [] []
  | cons {token : Token} {joint : Conjunction} {filter rest : List Token} {leaf : Leaf}
    {links : List (Conjunction × Leaf)} :
    token.IsJoint joint → IsFilter filter leaf → IsTail rest links →
      IsTail (token :: (filter ++ rest)) ((joint, leaf) :: links)

/-- The tokens are a filter and then filters after conjunctions. -/
inductive IsExpression : List Token → Leaf → List (Conjunction × Leaf) → Prop
  | mk {filter rest : List Token} {first : Leaf} {links : List (Conjunction × Leaf)} :
    IsFilter filter first → IsTail rest links → IsExpression (filter ++ rest) first links

namespace Condition

/-- The condition with a further comparison. -/
def link (left : Condition) (next : Conjunction × Leaf) : Condition :=
  .merge next.1 left (.leaf next.2)

/-- The condition of a comparison and the links after it, folded from the left. -/
def chainOf (first : Leaf) (links : List (Conjunction × Leaf)) : Condition :=
  links.foldl link (.leaf first)

/-- Every right child is a single comparison. -/
def RightLeaves : Condition → Prop
  | .leaf _ => True
  | .merge _ left right => left.RightLeaves ∧ ∃ l, right = .leaf l

theorem rightLeaves_foldl_link {left : Condition} (h : left.RightLeaves)
    (links : List (Conjunction × Leaf)) : (links.foldl link left).RightLeaves := by
  induction links generalizing left with
  | nil => exact h
  | cons next links ih => exact ih ⟨h, next.2, rfl⟩

theorem rightLeaves_chainOf (first : Leaf) (links : List (Conjunction × Leaf)) :
    (chainOf first links).RightLeaves := by
  have hleaf : RightLeaves (.leaf first) := trivial
  exact rightLeaves_foldl_link hleaf links

/-! ## Single tokens -/

theorem operand?_eq_some_iff {token : Token} {text : String} :
    token.operand? = some text ↔ token.IsFactor text := by
  constructor
  · intro h
    cases token <;> simp only [Token.operand?, reduceCtorEq, Option.some.injEq] at h
    · exact h ▸ .quoted _
    · exact h ▸ .bare _
  · rintro (_ | _) <;> rfl

theorem operator?_eq_some_iff {token : Token} {op : Comparison} :
    token.operator? = some op ↔ token = .comparison op := by
  constructor
  · intro h
    cases token <;> simp only [Token.operator?, reduceCtorEq, Option.some.injEq] at h
    exact congrArg _ h
  · rintro rfl
    rfl

theorem conjunction?_eq_some_iff {token : Token} {joint : Conjunction} :
    token.conjunction? = some joint ↔ token.IsJoint joint := by
  constructor
  · intro h
    cases token <;> simp only [Token.conjunction?, reduceCtorEq, Option.some.injEq] at h
    · exact h ▸ .and
    · exact h ▸ .or
  · rintro (_ | _) <;> rfl

/-! ## What the reader takes -/

theorem expect_eq_ok_iff {α : Type} {view : Token → Option α} {tokens rest : List Token} {a : α} :
    expect view tokens = .ok (a, rest) ↔ ∃ token, view token = some a ∧ tokens = token :: rest := by
  constructor
  · intro h
    cases tokens with
    | nil => exact absurd h (by simp only [expect, reduceCtorEq, not_false_eq_true])
    | cons token tail =>
        rw [expect] at h
        cases hview : view token with
        | none =>
            rw [hview] at h
            exact absurd h (by simp only [reduceCtorEq, not_false_eq_true])
        | some b =>
            rw [hview] at h
            simp only [Except.ok.injEq, Prod.mk.injEq] at h
            exact ⟨token, by rw [hview, h.1], by rw [h.2]⟩
  · rintro ⟨token, hview, rfl⟩
    rw [expect, hview]

/-- The reader takes a comparison where a filter stands, and nothing more than the filter. -/
theorem takeLeaf_eq_ok_iff {tokens rest : List Token} {leaf : Leaf} :
    takeLeaf tokens = .ok (leaf, rest) ↔
      ∃ filter, IsFilter filter leaf ∧ tokens = filter ++ rest := by
  simp only [takeLeaf, bind_eq_ok_iff, Prod.exists, expect_eq_ok_iff, Except.ok.injEq,
    Prod.mk.injEq]
  constructor
  · rintro ⟨column, _, ⟨left, hleft, rfl⟩, op, _, ⟨middle, hop, rfl⟩, value, _,
      ⟨right, hright, rfl⟩, rfl, rfl⟩
    rcases operator?_eq_some_iff.mp hop with rfl
    exact ⟨_, .mk op (operand?_eq_some_iff.mp hleft) (operand?_eq_some_iff.mp hright), rfl⟩
  · rintro ⟨_, ⟨op, hleft, hright⟩, rfl⟩
    exact ⟨_, _, ⟨_, operand?_eq_some_iff.mpr hleft, rfl⟩, op, _, ⟨_, rfl, rfl⟩, _, rest,
      ⟨_, operand?_eq_some_iff.mpr hright, rfl⟩, rfl, rfl⟩

theorem chain_nil (left : Condition) : chain left [] = .ok left := by
  rw [chain]

theorem chain_cons_eq_ok_iff {left condition : Condition} {token : Token} {tokens : List Token} :
    chain left (token :: tokens) = .ok condition ↔
      ∃ joint, token.conjunction? = some joint ∧
        ∃ leaf rest, takeLeaf tokens = .ok (leaf, rest) ∧
          chain (left.link (joint, leaf)) rest = .ok condition := by
  rw [chain]
  cases hjoint : token.conjunction? with
  | none => simp only [reduceCtorEq, false_and, exists_false]
  | some joint =>
      simp only [Option.some.injEq, exists_eq_left']
      -- After a conjunction a leaf has to follow, and the chain goes on behind it.
      split
      · next e hleaf => simp only [hleaf, reduceCtorEq, false_and, exists_false]
      · next leaf rest hleaf =>
          simp only [hleaf, Except.ok.injEq, Prod.mk.injEq]
          constructor
          · intro h
            exact ⟨leaf, rest, ⟨rfl, rfl⟩, h⟩
          · rintro ⟨_, _, ⟨rfl, rfl⟩, h⟩
            exact h

/-- What follows a comparison is read to the end, as the links that the grammar derives. -/
theorem chain_eq_ok_iff {left condition : Condition} {tokens : List Token} :
    chain left tokens = .ok condition ↔
      ∃ links, IsTail tokens links ∧ condition = links.foldl link left := by
  constructor
  · -- The reader moves on by a whole filter, so the induction is on the number of tokens.
    induction hn : tokens.length using Nat.strongRecOn generalizing left tokens with
    | ind n ih =>
        intro h
        cases tokens with
        | nil =>
            rw [chain_nil, Except.ok.injEq] at h
            exact ⟨[], .nil, h.symm⟩
        | cons token tail =>
            rcases chain_cons_eq_ok_iff.mp h with ⟨joint, hjoint, leaf, rest, hleaf, hrest⟩
            have hlt : rest.length < n := by
              have := length_of_takeLeaf hleaf
              rw [List.length_cons] at hn
              omega
            -- The leaf is one link more, and the tail of the grammar follows the reader.
            rcases takeLeaf_eq_ok_iff.mp hleaf with ⟨filter, hfilter, rfl⟩
            rcases ih rest.length hlt rfl hrest with ⟨links, htail, rfl⟩
            exact ⟨(joint, leaf) :: links,
              .cons (conjunction?_eq_some_iff.mp hjoint) hfilter htail, rfl⟩
  · rintro ⟨links, htail, rfl⟩
    induction htail generalizing left with
    | nil => exact chain_nil left
    | cons hjoint hfilter _ ih =>
        exact chain_cons_eq_ok_iff.mpr ⟨_, conjunction?_eq_some_iff.mpr hjoint, _, _,
          takeLeaf_eq_ok_iff.mpr ⟨_, hfilter, rfl⟩, ih⟩

/-- The rows of tokens that are conditions are the expressions. -/
theorem ofTokens_eq_ok_iff {tokens : List Token} {condition : Condition} :
    ofTokens tokens = .ok condition ↔
      ∃ first links, IsExpression tokens first links ∧ condition = chainOf first links := by
  simp only [ofTokens, bind_eq_ok_iff, Prod.exists, takeLeaf_eq_ok_iff, chain_eq_ok_iff]
  constructor
  · rintro ⟨first, rest, ⟨filter, hfilter, rfl⟩, links, htail, rfl⟩
    exact ⟨first, links, .mk hfilter htail, rfl⟩
  · rintro ⟨first, links, ⟨hfilter, htail⟩, rfl⟩
    exact ⟨first, _, ⟨_, hfilter, rfl⟩, links, htail, rfl⟩

theorem not_isExpression_nil {first : Leaf} {links : List (Conjunction × Leaf)} :
    ¬ IsExpression [] first links := by
  intro h
  generalize hnil : ([] : List Token) = tokens at h
  rcases h with ⟨⟨⟩, _⟩
  exact absurd hnil (by simp only [List.cons_append, reduceCtorEq, not_false_eq_true])

/-- A condition was read from the tokens of its text, and the empty text has none. -/
theorem parse_eq_ok_iff {s : String} {condition : Condition} :
    parse s = .ok condition ↔ ∃ located, Token.scan (Text.trim s) = .ok located ∧
      ofTokens (located.map Located.token) = .ok condition := by
  rw [parse]
  by_cases hempty : (Text.trim s).isEmpty = true
  · -- The empty text is refused before it is scanned, and its tokens are no expression either.
    have hscan : Token.scan (Text.trim s) = .ok [] := by
      rw [Token.scan, String.isEmpty_iff.mp hempty, String.toList_empty, Token.scanFrom]
    have hnone : ∀ condition, ofTokens [] ≠ .ok condition := by
      intro condition h
      rcases ofTokens_eq_ok_iff.mp h with ⟨first, links, hexpr, -⟩
      exact not_isExpression_nil hexpr
    rw [if_pos hempty, hscan]
    refine iff_of_false (by simp only [reduceCtorEq, not_false_eq_true]) ?_
    rintro ⟨located, hlocated, h⟩
    rw [Except.ok.injEq] at hlocated
    rw [← hlocated] at h
    exact hnone condition h
  · rw [if_neg hempty, bind_eq_ok_iff]

/-- A text is read if and only if, without the blanks around it, it has tokens and these are an
expression; it then gives the chain of the comparisons of the expression, in their order and each
with the conjunction before it. In a chain every right child is a single comparison. -/
theorem parse_eq_ok_iff_isExpression (s : String) (condition : Condition) :
    (parse s = .ok condition ↔
      ∃ located first links, Token.scan (Text.trim s) = .ok located ∧
        IsExpression (located.map Located.token) first links ∧
        condition = chainOf first links) ∧
      ∀ first links, (chainOf first links).RightLeaves := by
  refine ⟨?_, rightLeaves_chainOf⟩
  rw [parse]
  by_cases hempty : (Text.trim s).isEmpty = true
  · -- The empty text has no tokens, and no expression is empty.
    rw [if_pos hempty]
    have hscan : Token.scan (Text.trim s) = .ok [] := by
      rw [Token.scan, String.isEmpty_iff.mp hempty, String.toList_empty, Token.scanFrom]
    rw [hscan]
    constructor
    · intro h
      exact absurd h (by simp only [reduceCtorEq, not_false_eq_true])
    · rintro ⟨located, first, links, hnil, hexpr, _⟩
      rw [Except.ok.injEq] at hnil
      rw [← hnil, List.map_nil] at hexpr
      exact absurd hexpr not_isExpression_nil
  · rw [if_neg hempty]
    simp only [bind_eq_ok_iff, ofTokens_eq_ok_iff]
    constructor
    · rintro ⟨located, hscan, first, links, hexpr, rfl⟩
      exact ⟨located, first, links, hscan, hexpr, rfl⟩
    · rintro ⟨located, first, links, hscan, hexpr, rfl⟩
      exact ⟨located, hscan, first, links, hexpr, rfl⟩

end Condition

end GridQuery
