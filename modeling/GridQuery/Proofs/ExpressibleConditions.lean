import GridQuery.Proofs.RejectedConditions
import GridQuery.Proofs.ShownTokens

/-!
# Conditions that have a Text

Which trees of comparisons some text is read as.

There are two limits. One is the shape of the tree, which has to be a chain. The other comes from
literals, which know no escapes: a name or a value with a quote in it cannot be put between quotes,
so it has to stand as a word, and then it must be one. A name or a value without a quote can always
be put between quotes, also if it is empty or a keyword.

The text of a condition is made by these two rules, from its tokens. A word with a quote in it is
never a keyword, because keywords are made of letters, so the rules need no third case.

## Main definitions

* `Text.Expressible`: The names and values that a condition text can have.
* `Condition.tokens`, `Condition.text`: The text of a condition.

## Theorems

* `Condition.comparisons_chainOf`: The comparisons of a chain.
* `Text.expressible_of_writable`: The operands of a text are expressible.
* `Condition.exists_isExpression_tokens`: The tokens of a chain are an expression.
* `Condition.parse_text`: The text of a condition is read as the condition.
* `Condition.exists_parse_eq_ok_iff`: The conditions that have a text.
-/

namespace GridQuery

/-- The text has no quote in it, or it is a word that does not begin with one. -/
def Text.Expressible (text : String) : Prop :=
  '\'' ∉ text.toList ∨ text ≠ "" ∧ text.toList.head? ≠ some '\'' ∧
    ∀ c ∈ text.toList, isBlank c = false ∧ c ∉ ['=', '!', '<', '>', '(', ')']

-- Only the characters of the text are looked at; there is another instance that tries all.
instance (text : String) : Decidable (Text.Expressible text) :=
  have : Decidable (∀ c ∈ text.toList,
      Text.isBlank c = false ∧ c ∉ ['=', '!', '<', '>', '(', ')']) := List.decidableBAll _ _
  inferInstanceAs (Decidable (_ ∨ _))

/-- The name and the value of the comparison are expressible. -/
def Leaf.Expressible (l : Leaf) : Prop :=
  Text.Expressible l.column ∧ Text.Expressible l.value

namespace Token

/-- The operand with a text: a literal, or a word where there is a quote in it. -/
def ofOperand (text : String) : Token :=
  if '\'' ∈ text.toList then .bare text else .quoted text

def ofConjunction : Conjunction → Token
  | .and => .and
  | .or => .or

end Token

namespace Condition

/-- The tokens of a condition. -/
def tokens : Condition → List Token
  | .leaf l => [.ofOperand l.column, .comparison l.comparison, .ofOperand l.value]
  | .merge joint left right => left.tokens ++ .ofConjunction joint :: right.tokens

/-- The text of a condition. -/
def text (condition : Condition) : String := Token.shown condition.tokens

end Condition

/-! ## Operands -/

theorem Token.isWordChar_eq_true_iff {c : Char} :
    isWordChar c = true ↔ Text.isBlank c = false ∧ c ∉ ['=', '!', '<', '>', '(', ')'] := by
  have hsign : isOperatorChar c = false ↔ c ∉ ['=', '!', '<', '>', '(', ')'] := by
    simp only [isOperatorChar, Bool.or_eq_false_iff, decide_eq_false_iff_not, List.mem_cons,
      List.not_mem_nil, or_false, not_or, and_assoc]
  rw [isWordChar, Bool.and_eq_true, Bool.not_eq_true', Bool.not_eq_true', hsign]

/-- The operands that stand in a text are expressible. -/
theorem Text.expressible_of_writable {token : Token} {text : String} (h : token.Writable)
    (hfactor : token.IsFactor text) : Expressible text := by
  cases hfactor with
  | quoted _ => exact .inl h
  | bare _ =>
      rcases h with ⟨hne, hquote, hall, -⟩
      refine .inr ⟨fun hempty => hne (hempty ▸ String.toList_empty), hquote, fun c hc => ?_⟩
      exact Token.isWordChar_eq_true_iff.mp (List.all_eq_true.mp hall c hc)

namespace Token

theorem isFactor_ofOperand (text : String) : (ofOperand text).IsFactor text := by
  unfold ofOperand
  split
  · exact .bare text
  · exact .quoted text

theorem isJoint_ofConjunction (joint : Conjunction) : (ofConjunction joint).IsJoint joint := by
  cases joint with
  | and => exact .and
  | or => exact .or

/-- A word with a quote in it is no keyword. -/
theorem isReadAs_of_quote {text : String} (h : '\'' ∈ text.toList) :
    IsReadAs text.toList (.bare text) := by
  have hletters : ∀ keyword ∈ keywords, '\'' ∉ keyword.1 := by decide
  have hmem : '\'' ∈ text.toList.map Char.toLower := List.mem_map.mpr ⟨'\'', h, by decide⟩
  have hread : IsReadAs text.toList (.bare (.ofList text.toList)) := by
    refine .word fun keyword hkeyword heq => ?_
    rw [heq] at hmem
    exact hletters keyword hkeyword hmem
  rwa [String.ofList_toList] at hread

theorem writable_ofOperand {text : String} (h : Text.Expressible text) :
    (ofOperand text).Writable := by
  unfold ofOperand
  split
  · next hquote =>
      rcases h with hnot | ⟨hne, hhead, hall⟩
      · exact absurd hquote hnot
      · refine ⟨List.ne_nil_of_mem hquote, hhead, ?_, isReadAs_of_quote hquote⟩
        exact List.all_eq_true.mpr fun c hc => isWordChar_eq_true_iff.mpr (hall c hc)
  · next hquote => exact hquote

end Token

/-! ## Chains -/

section Operands

variable {ts us : List Token} {first l : Leaf} {links others : List (Conjunction × Leaf)}

theorem IsFilter.expressible (h : IsFilter ts l) (hts : ∀ token ∈ ts, token.Writable) :
    l.Expressible := by
  rcases h with ⟨op, hleft, hright⟩
  exact ⟨Text.expressible_of_writable (hts _ (.head _)) hleft,
    Text.expressible_of_writable (hts _ (.tail _ (.tail _ (.head _)))) hright⟩

theorem IsTail.expressible (h : IsTail ts links) (hts : ∀ token ∈ ts, token.Writable) :
    ∀ l ∈ links.map Prod.snd, l.Expressible := by
  induction h with
  | nil => exact fun _ hmem => absurd hmem List.not_mem_nil
  | cons _ hfilter _ ih =>
      rw [List.forall_mem_cons, List.forall_mem_append] at hts
      rw [List.map_cons, List.forall_mem_cons]
      exact ⟨hfilter.expressible hts.2.1, ih hts.2.2⟩

theorem IsExpression.append (hts : IsExpression ts first links) (hus : IsTail us others) :
    IsExpression (ts ++ us) first (links ++ others) := by
  rcases hts with ⟨hfilter, htail⟩
  rw [List.append_assoc]
  exact .mk hfilter (htail.append hus)

end Operands

namespace Condition

theorem comparisons_foldl_link (left : Condition) (links : List (Conjunction × Leaf)) :
    (links.foldl link left).comparisons = left.comparisons ++ links.map Prod.snd := by
  induction links generalizing left with
  | nil => rw [List.foldl_nil, List.map_nil, List.append_nil]
  | cons next links ih =>
      rw [List.foldl_cons, ih, link, comparisons, comparisons, List.append_assoc, List.map_cons]
      rfl

theorem comparisons_chainOf (first : Leaf) (links : List (Conjunction × Leaf)) :
    (chainOf first links).comparisons = first :: links.map Prod.snd := by
  rw [chainOf, comparisons_foldl_link]
  rfl

theorem expressible_of_isExpression {tokens : List Token} {first : Leaf}
    {links : List (Conjunction × Leaf)} (h : IsExpression tokens first links)
    (hwritable : ∀ token ∈ tokens, token.Writable) :
    ∀ l ∈ (chainOf first links).comparisons, l.Expressible := by
  rcases h with ⟨hfilter, htail⟩
  rw [List.forall_mem_append] at hwritable
  rw [comparisons_chainOf, List.forall_mem_cons]
  exact ⟨hfilter.expressible hwritable.1, htail.expressible hwritable.2⟩

/-- The tokens of a chain are an expression, of which it is the condition. -/
theorem exists_isExpression_tokens {condition : Condition} (h : condition.RightLeaves) :
    ∃ first links, IsExpression condition.tokens first links ∧
      condition = chainOf first links := by
  -- An operand is written as one token, and a leaf as three.
  have hleaf : ∀ l : Leaf, IsFilter (leaf l).tokens l := fun l =>
    .mk l.comparison (Token.isFactor_ofOperand l.column) (Token.isFactor_ofOperand l.value)
  induction condition with
  | leaf l =>
      refine ⟨l, [], ?_, rfl⟩
      rw [← List.append_nil (leaf l).tokens]
      exact .mk (hleaf l) .nil
  | merge joint left right ih _ =>
      rcases h with ⟨hleft, l, rfl⟩
      -- The left side is a chain already, and the leaf on the right is its last link.
      rcases ih hleft with ⟨first, links, hexpr, hchain⟩
      have hlink : IsTail (.ofConjunction joint :: ((leaf l).tokens ++ [])) [(joint, l)] :=
        .cons (Token.isJoint_ofConjunction joint) (hleaf l) .nil
      rw [List.append_nil] at hlink
      refine ⟨first, links ++ [(joint, l)], hexpr.append hlink, ?_⟩
      rw [chainOf, List.foldl_append, ← chainOf, ← hchain]
      rfl

theorem writable_tokens {condition : Condition}
    (h : ∀ l ∈ condition.comparisons, l.Expressible) :
    ∀ token ∈ condition.tokens, token.Writable := by
  induction condition with
  | leaf l =>
      have hl : l.Expressible := h l (.head _)
      simp only [tokens, List.forall_mem_cons]
      exact ⟨Token.writable_ofOperand hl.1, trivial, Token.writable_ofOperand hl.2,
        fun _ hmem => absurd hmem List.not_mem_nil⟩
  | merge joint left right ihleft ihright =>
      rw [comparisons, List.forall_mem_append] at h
      rw [tokens, List.forall_mem_append, List.forall_mem_cons]
      refine ⟨ihleft h.1, ?_, ihright h.2⟩
      -- Both conjunctions are keywords, which can always be written.
      cases joint <;> trivial

/-- The text of a chain with expressible names and values is read as the chain. -/
theorem parse_text {condition : Condition} (hshape : condition.RightLeaves)
    (h : ∀ l ∈ condition.comparisons, l.Expressible) :
    parse condition.text = .ok condition := by
  rcases exists_isExpression_tokens hshape with ⟨first, links, hexpr, hchain⟩
  rcases (Token.scans_iff 0).mp (Token.scans_shown (writable_tokens h)) with
    ⟨located, hscan, htokens⟩
  -- A condition has a leaf, so its text is not empty.
  have hne : located ≠ [] := by
    rintro rfl
    rw [List.map_nil] at htokens
    rw [← htokens] at hexpr
    exact not_isExpression_nil hexpr
  rw [text, parse_of_scan hscan hne, htokens]
  exact ofTokens_eq_ok_iff.mpr ⟨first, links, hexpr, hchain⟩

/-- A tree is read from some text if and only if every right child in it is a single comparison and
all names and values in it are expressible: each of them has no quote in it, or is a word that does
not begin with one. -/
theorem exists_parse_eq_ok_iff (condition : Condition) :
    (∃ s, parse s = .ok condition) ↔
      condition.RightLeaves ∧ ∀ l ∈ condition.comparisons,
        Text.Expressible l.column ∧ Text.Expressible l.value := by
  constructor
  · rintro ⟨s, hs⟩
    rcases parse_eq_ok_iff_scans.mp hs with ⟨tokens, hscans, htokens⟩
    rcases ofTokens_eq_ok_iff.mp htokens with ⟨first, links, hexpr, rfl⟩
    exact ⟨rightLeaves_chainOf first links,
      expressible_of_isExpression hexpr (Token.writable_of_scans hscans)⟩
  · rintro ⟨hshape, h⟩
    exact ⟨condition.text, parse_text hshape h⟩

/-- A keyword is put between quotes and a word with a quote in it is not; a quote and a blank cannot
be had together. -/
example :
    text (.leaf ⟨"and", .unequal, "o'clock"⟩) = "'and' != o'clock" ∧
      ¬Text.Expressible "five o'clock" := by
  decide +kernel

end Condition

end GridQuery
