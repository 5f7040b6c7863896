import GridQuery.Proofs.Numerals
import GridQuery.Sql.Fragment
import Mathlib.Data.List.TakeWhile

/-!
# The Tokens of Query Text

How the text of a condition is cut into tokens, whoever wrote it. A literal runs from a quote to
the first quote that is not doubled, a word is as long as its characters reach, and a numeral is
the longest run of characters that can be in one, which must then be readable as a decimal. Blanks
separate tokens and are dropped.

Query text is put together from pieces, so it is read in pieces as well. `Spells cs ts` says that a
piece of text gives the tokens `ts` and leaves whatever follows it to be read on its own. That
needs a condition on what follows: a word would otherwise grow into the next one, and a literal
would not end before a further quote. `Stops` is that condition, and the pieces of a query are all
followed by one of its three characters or by nothing. With it, `Spells` of a composed text follows
from `Spells` of its parts, and the reader itself is opened only for single tokens.

## Main definitions

* `Sql.Token`, `Sql.tokens?`: The tokens, and those of a text.
* `Sql.isWord`, `Sql.isNumeral`: The texts that are one word or one numeral.
* `Sql.Stops`, `Sql.Spells`: Where a piece of text may end, and the tokens that it gives.

## Theorems

* `takeLiteral?_doubled`: A text between quotes, its quotes doubled, is read back.
* `spells_word`, `spells_literal`, `spells_numeral`, `spells_relation`: Texts of one token.
* `spells_append_blank`, `spells_parenthesized`: Texts put together.
* `tokens?_of_spells`: The tokens of a whole text.
-/

namespace GridQuery

namespace Sql

/-- The smallest parts of query text. -/
inductive Token
  | word (text : List Char)
  | literal (text : List Char)
  | numeral (text : List Char)
  | relation (relation : Relation)
  | comma
  | openParen
  | closeParen
  deriving DecidableEq

/-- A character that a word may begin with. -/
def isWordStart (c : Char) : Bool := c.isAlpha || c == '_'

/-- A character that a word may go on with. -/
def isWordChar (c : Char) : Bool := c.isAlphanum || c == '_'

/-- A character that a numeral is taken to go on with, be it readable or not. -/
def isNumeralChar (c : Char) : Bool := isWordChar c || Decimal.isStart c

/-- The text is one word. -/
def isWord : List Char → Bool
  | [] => false
  | c :: cs => isWordStart c && cs.all isWordChar

/-- The text is one numeral. -/
def isNumeral (cs : List Char) : Bool := (Decimal.read? cs).isSome

/-- The text of a literal after its first quote, and what follows its last one. -/
def takeLiteral? : List Char → Option (List Char × List Char)
  | [] => none
  | [c] => if c = '\'' then some ([], []) else none
  | c :: d :: cs =>
    if c ≠ '\'' then (takeLiteral? (d :: cs)).map fun (text, rest) => (c :: text, rest)
    else if d ≠ '\'' then some ([], d :: cs)
    else (takeLiteral? cs).map fun (text, rest) => (c :: text, rest)

/-- The relation whose symbol begins a text, the longest one, and what follows the symbol. -/
def takeRelation? : List Char → Option (Relation × List Char)
  | '<' :: '=' :: rest => some (.lessOrEqual, rest)
  | '<' :: '>' :: rest => some (.notEqual, rest)
  | '<' :: rest => some (.less, rest)
  | '>' :: '=' :: rest => some (.greaterOrEqual, rest)
  | '>' :: rest => some (.greater, rest)
  | '!' :: '=' :: rest => some (.notSame, rest)
  | '=' :: rest => some (.equal, rest)
  | _ => none

/-- The token that begins with a character, and what follows the token. -/
def lexeme? (c : Char) (rest : List Char) : Option (Token × List Char) :=
  if isWordStart c then
    some (.word (c :: rest.takeWhile isWordChar), rest.dropWhile isWordChar)
  else if Decimal.isStart c then
    let run := c :: rest.takeWhile isNumeralChar
    if isNumeral run then some (.numeral run, rest.dropWhile isNumeralChar) else none
  else if c = '\'' then (takeLiteral? rest).map fun (text, after) => (.literal text, after)
  else if c = '(' then some (.openParen, rest)
  else if c = ')' then some (.closeParen, rest)
  else if c = ',' then some (.comma, rest)
  else (takeRelation? (c :: rest)).map fun (relation, after) => (.relation relation, after)

theorem length_lt_of_takeLiteral? {cs text rest : List Char}
    (h : takeLiteral? cs = some (text, rest)) : rest.length < cs.length := by
  induction cs using takeLiteral?.induct generalizing text with
  | case1 => exact absurd h (by simp only [takeLiteral?, reduceCtorEq, not_false_eq_true])
  | case2 =>
      simp only [takeLiteral?, if_true, Option.some.injEq, Prod.mk.injEq] at h
      rw [← h.2]
      exact Nat.zero_lt_one
  | case3 c hc =>
      rw [takeLiteral?, if_neg hc] at h
      exact absurd h (by simp only [reduceCtorEq, not_false_eq_true])
  | case4 c d cs hc ih =>
      rw [takeLiteral?, if_pos hc] at h
      rcases Option.map_eq_some_iff.1 h with ⟨⟨text', rest'⟩, htake, heq⟩
      cases heq
      exact Nat.lt_succ_of_lt (ih htake)
  | case5 c d cs hc hd =>
      rw [takeLiteral?, if_neg hc, if_pos hd] at h
      cases h
      exact Nat.lt_succ_self _
  -- Two quotes stand for one, and the literal goes on.
  | case6 c d cs hc hd ih =>
      rw [takeLiteral?, if_neg hc, if_neg hd] at h
      rcases Option.map_eq_some_iff.1 h with ⟨⟨text', rest'⟩, htake, heq⟩
      cases heq
      have hlt := ih htake
      simp only [List.length_cons]
      omega

theorem length_lt_of_takeRelation? {cs rest : List Char} {r : Relation}
    (h : takeRelation? cs = some (r, rest)) : rest.length < cs.length := by
  unfold takeRelation? at h
  split at h
  all_goals first
    | cases h
      simp only [List.length_cons]
      omega
    | exact absurd h (by simp only [reduceCtorEq, not_false_eq_true])

theorem length_lt_of_lexeme? {c : Char} {rest after : List Char} {token : Token}
    (h : lexeme? c rest = some (token, after)) : after.length < (c :: rest).length := by
  rw [List.length_cons]
  unfold lexeme? at h
  -- In the order of the scanner: words, numerals, literals, signs, and last the relations.
  split at h
  · cases h
    exact Nat.lt_succ_of_le (List.length_dropWhile_le _ _)
  · split at h
    · simp only at h
      split at h
      · cases h
        exact Nat.lt_succ_of_le (List.length_dropWhile_le _ _)
      · exact absurd h (by simp only [reduceCtorEq, not_false_eq_true])
    · split at h
      · rcases Option.map_eq_some_iff.1 h with ⟨⟨text, after'⟩, htake, heq⟩
        cases heq
        exact Nat.lt_succ_of_lt (length_lt_of_takeLiteral? htake)
      · split at h
        · cases h
          exact Nat.lt_succ_self _
        · split at h
          · cases h
            exact Nat.lt_succ_self _
          · split at h
            · cases h
              exact Nat.lt_succ_self _
            · rcases Option.map_eq_some_iff.1 h with ⟨⟨relation, after'⟩, htake, heq⟩
              cases heq
              exact length_lt_of_takeRelation? htake

/-- The tokens of a text. -/
def tokens? (cs : List Char) : Option (List Token) :=
  match cs with
  | [] => some []
  | c :: rest =>
    if c.isWhitespace then tokens? rest
    else match _h : lexeme? c rest with
      | none => none
      | some (token, after) => (tokens? after).map (token :: ·)
termination_by cs.length
decreasing_by
  · simp
  · exact length_lt_of_lexeme? ‹_›

/-! ## The first token of a text -/

theorem tokens?_nil : tokens? [] = some [] := by
  rw [tokens?]

theorem tokens?_blank (cs : List Char) : tokens? (' ' :: cs) = tokens? cs := by
  rw [tokens?, if_pos (by decide)]

theorem tokens?_of_lexeme? {c : Char} {rest after : List Char} {token : Token}
    (hc : c.isWhitespace = false) (h : lexeme? c rest = some (token, after)) :
    tokens? (c :: rest) = (tokens? after).map (token :: ·) := by
  rw [tokens?, if_neg (by rw [hc]; decide)]
  -- The reader names the equation of its match for termination, so the match is split again.
  split
  · next hnone => exact absurd (hnone.symm.trans h) (by simp only [reduceCtorEq, not_false_eq_true])
  · next token' after' hsome =>
      rcases Prod.mk.inj (Option.some.inj (hsome.symm.trans h)) with ⟨rfl, rfl⟩
      rfl

theorem takeLiteral?_cons_of_ne {c : Char} (hc : c ≠ '\'') (cs : List Char) :
    takeLiteral? (c :: cs) = (takeLiteral? cs).map fun (text, rest) => (c :: text, rest) := by
  cases cs with
  | nil => simp only [takeLiteral?, if_neg hc, Option.map_none]
  | cons d cs => rw [takeLiteral?, if_pos hc]

theorem takeLiteral?_doubled (cs : List Char) {rest : List Char} (h : rest.head? ≠ some '\'') :
    takeLiteral? (doubled cs ++ '\'' :: rest) = some (cs, rest) := by
  induction cs with
  | nil =>
      cases rest with
      | nil => rfl
      | cons d rest =>
          have hd : d ≠ '\'' := fun hd => h (by rw [hd, List.head?_cons])
          rw [doubled, List.nil_append, takeLiteral?, if_neg (not_not_intro rfl), if_pos hd]
  | cons c cs ih =>
      rw [doubled]
      -- A quote of the text is there twice, and the reader takes the two as one.
      by_cases hc : c = '\''
      · rw [if_pos hc, List.cons_append, List.cons_append, takeLiteral?,
          if_neg (not_not_intro rfl), if_neg (not_not_intro rfl), ih, Option.map_some, hc]
      · rw [if_neg hc, List.cons_append, takeLiteral?_cons_of_ne hc, ih, Option.map_some]

/-! ## Pieces of text -/

/-- Nothing follows, or something that ends every word, numeral, symbol and literal. -/
def Stops (rest : List Char) : Prop :=
  ∀ c ∈ rest.head?, c = ' ' ∨ c = ')' ∨ c = ','

/-- The text gives the tokens, and what follows it is read on its own. -/
def Spells (cs : List Char) (ts : List Token) : Prop :=
  ∀ rest, Stops rest → tokens? (cs ++ rest) = (tokens? rest).map (ts ++ ·)

theorem stops_nil : Stops [] := by
  intro c hc
  exact absurd hc (by simp only [List.head?_nil, Option.mem_def, reduceCtorEq, not_false_eq_true])

theorem stops_cons {c : Char} (h : c = ' ' ∨ c = ')' ∨ c = ',') (rest : List Char) :
    Stops (c :: rest) := by
  intro d hd
  rw [List.head?_cons, Option.mem_def, Option.some.injEq] at hd
  exact hd ▸ h

theorem run_append_of_stops {p : Char → Bool} {cs rest : List Char} (hcs : cs.all p = true)
    (hp : p ' ' = false ∧ p ')' = false ∧ p ',' = false) (h : Stops rest) :
    (cs ++ rest).takeWhile p = cs ∧ (cs ++ rest).dropWhile p = rest := by
  refine Text.run_append hcs ?_
  intro c hc
  rcases h c hc with rfl | rfl | rfl
  · exact hp.1
  · exact hp.2.1
  · exact hp.2.2

theorem spells_of_lexeme? {c : Char} {cs : List Char} {token : Token}
    (hc : c.isWhitespace = false)
    (h : ∀ rest, Stops rest → lexeme? c (cs ++ rest) = some (token, rest)) :
    Spells (c :: cs) [token] := by
  intro rest hrest
  rw [List.cons_append, tokens?_of_lexeme? hc (h rest hrest)]
  rfl

theorem isWhitespace_eq_false_of_not_mem {c : Char} (h : c ∉ [' ', '\t', '\r', '\n']) :
    c.isWhitespace = false := by
  simp only [List.mem_cons, List.not_mem_nil, or_false, not_or] at h
  simp only [Char.isWhitespace, h.1, h.2.1, h.2.2.1, h.2.2.2, decide_false, Bool.or_self]

theorem isWhitespace_of_isNumeralChar {c : Char} (h : isNumeralChar c = true) :
    c.isWhitespace = false := by
  refine isWhitespace_eq_false_of_not_mem fun hmem => ?_
  simp only [List.mem_cons, List.not_mem_nil, or_false] at hmem
  rcases hmem with rfl | rfl | rfl | rfl <;> exact absurd h (by decide)

theorem isNumeralChar_of_isWordStart {c : Char} (h : isWordStart c = true) :
    isNumeralChar c = true := by
  simp only [isWordStart, Bool.or_eq_true] at h
  simp only [isNumeralChar, isWordChar, Char.isAlphanum, Bool.or_eq_true]
  rcases h with h | h
  · exact .inl (.inl (.inl h))
  · exact .inl (.inr h)

theorem spells_word {cs : List Char} (h : isWord cs = true) : Spells cs [.word cs] := by
  cases cs with
  | nil => exact absurd h (by decide)
  | cons c cs =>
      rw [isWord, Bool.and_eq_true] at h
      refine spells_of_lexeme? (isWhitespace_of_isNumeralChar (isNumeralChar_of_isWordStart h.1)) ?_
      intro rest hrest
      -- What stops a piece of text cannot be in a word, so the word ends there.
      rcases run_append_of_stops h.2 (by decide) hrest with ⟨htake, hdrop⟩
      rw [lexeme?, if_pos h.1, htake, hdrop]

/-- Digits come before all letters. -/
theorem isAlpha_eq_false_of_isDigit {c : Char} (h : c.isDigit = true) : c.isAlpha = false := by
  have hnine : '9'.toNat = 57 := rfl
  have hupper : 'A'.val.toNat = 65 := rfl
  have hlower : 'a'.val.toNat = 97 := rfl
  have hval : c.val.toNat = c.toNat := rfl
  have hletter : c.isAlpha = (decide ('A'.val ≤ c.val ∧ c.val ≤ 'Z'.val) ||
      (decide ('a'.val ≤ c.val) && decide (c.val ≤ 'z'.val))) := rfl
  rw [Char.isDigit_iff_toNat] at h
  rw [Bool.eq_false_iff, hletter]
  -- The digits lie below all letters.
  intro halpha
  simp only [Bool.or_eq_true, Bool.and_eq_true, decide_eq_true_eq, UInt32.le_iff_toNat_le]
    at halpha
  omega

theorem isWordStart_eq_false_of_isStart {c : Char} (h : Decimal.isStart c = true) :
    isWordStart c = false := by
  simp only [Decimal.isStart, Bool.or_eq_true, beq_iff_eq] at h
  rcases h with ((hdigit | rfl) | rfl) | rfl
  · rw [isWordStart, isAlpha_eq_false_of_isDigit hdigit, Bool.false_or, beq_eq_false_iff_ne]
    rintro rfl
    exact absurd hdigit (by decide)
  · rfl
  · rfl
  · rfl

theorem isNumeralChar_of_isInner {c : Char} (h : Decimal.isInner c = true) :
    isNumeralChar c = true := by
  simp only [Decimal.isInner, Bool.or_eq_true, beq_iff_eq] at h
  rcases h with (h | rfl) | rfl
  · rw [isNumeralChar, h, Bool.or_true]
  · rfl
  · rfl

theorem spells_numeral {cs : List Char} (h : isNumeral cs = true) : Spells cs [.numeral cs] := by
  rcases Decimal.exists_cons_of_isSome_read? h with ⟨c, inner, rfl, hstart, hinner⟩
  have hchar : isNumeralChar c = true := by rw [isNumeralChar, hstart, Bool.or_true]
  refine spells_of_lexeme? (isWhitespace_of_isNumeralChar hchar) ?_
  intro rest hrest
  have hall : inner.all isNumeralChar = true :=
    List.all_eq_true.2 fun d hd => isNumeralChar_of_isInner (List.all_eq_true.1 hinner d hd)
  rcases run_append_of_stops hall (by decide) hrest with ⟨htake, hdrop⟩
  rw [lexeme?, if_neg (by rw [isWordStart_eq_false_of_isStart hstart]; decide), if_pos hstart]
  simp only [htake, hdrop, h, if_true]

theorem spells_literal (cs : List Char) : Spells (quoted cs) [.literal cs] := by
  have hquoted : quoted cs = '\'' :: (doubled cs ++ ['\'']) := rfl
  rw [hquoted]
  refine spells_of_lexeme? (by decide) ?_
  intro rest hrest
  -- A further quote would make the last one the first of two.
  have hhead : rest.head? ≠ some '\'' := by
    intro h
    have hstop := hrest '\'' h
    exact absurd hstop (by decide)
  rw [lexeme?, if_neg (by decide), if_neg (by decide), if_pos rfl, List.append_assoc,
    List.singleton_append, takeLiteral?_doubled cs hhead, Option.map_some]

theorem takeRelation?_symbol (r : Relation) {rest : List Char} (h : Stops rest) :
    takeRelation? (r.symbol.toList ++ rest) = some (r, rest) := by
  cases rest with
  | nil => cases r <;> rfl
  | cons c rest => rcases h c rfl with rfl | rfl | rfl <;> cases r <;> rfl

theorem lexeme?_of_mem_symbols {c : Char} (hc : c ∈ ['=', '<', '>', '!']) (rest : List Char) :
    lexeme? c rest =
      (takeRelation? (c :: rest)).map fun (relation, after) => (.relation relation, after) := by
  simp only [List.mem_cons, List.not_mem_nil, or_false] at hc
  rcases hc with rfl | rfl | rfl | rfl <;> rfl

theorem spells_relation (r : Relation) : Spells r.symbol.toList [.relation r] := by
  -- The reader looks at the first character to see that a symbol comes, and then at all of it.
  have hsymbol : ∃ c cs, r.symbol.toList = c :: cs ∧ c ∈ ['=', '<', '>', '!'] ∧
      c.isWhitespace = false := by
    cases r <;> exact ⟨_, _, rfl, by decide, by decide⟩
  rcases hsymbol with ⟨c, cs, heq, hmem, hblank⟩
  rw [heq]
  refine spells_of_lexeme? hblank ?_
  intro rest hrest
  have htake := takeRelation?_symbol r hrest
  rw [heq, List.cons_append] at htake
  rw [lexeme?_of_mem_symbols hmem, htake, Option.map_some]

/-! ## Pieces put together -/

theorem tokens?_openParen (cs : List Char) :
    tokens? ('(' :: cs) = (tokens? cs).map (.openParen :: ·) :=
  tokens?_of_lexeme? (by decide) rfl

theorem tokens?_closeParen (cs : List Char) :
    tokens? (')' :: cs) = (tokens? cs).map (.closeParen :: ·) :=
  tokens?_of_lexeme? (by decide) rfl

theorem tokens?_comma (cs : List Char) :
    tokens? (',' :: cs) = (tokens? cs).map (.comma :: ·) :=
  tokens?_of_lexeme? (by decide) rfl

theorem spells_append_blank {cs ds : List Char} {ts us : List Token} (hcs : Spells cs ts)
    (hds : Spells ds us) : Spells (cs ++ ' ' :: ds) (ts ++ us) := by
  intro rest hrest
  rw [List.append_assoc, List.cons_append, hcs _ (stops_cons (.inl rfl) _), tokens?_blank,
    hds rest hrest, Option.map_map]
  congr 1
  funext vs
  exact (List.append_assoc ts us vs).symm

theorem spells_append_comma {cs ds : List Char} {ts us : List Token} (hcs : Spells cs ts)
    (hds : Spells ds us) : Spells (cs ++ [',', ' '] ++ ds) (ts ++ [.comma] ++ us) := by
  intro rest hrest
  have htext : cs ++ [',', ' '] ++ ds ++ rest = cs ++ ',' :: ' ' :: (ds ++ rest) := by
    simp only [List.append_assoc, List.cons_append, List.nil_append]
  rw [htext, hcs _ (stops_cons (.inr (.inr rfl)) _), tokens?_comma, tokens?_blank, hds rest hrest,
    Option.map_map, Option.map_map]
  congr 1
  funext vs
  simp only [Function.comp_apply, List.append_assoc, List.cons_append, List.nil_append]

theorem spells_parenthesized {cs : List Char} {ts : List Token} (h : Spells cs ts) :
    Spells ('(' :: cs ++ [')']) (.openParen :: ts ++ [.closeParen]) := by
  intro rest hrest
  have htext : '(' :: cs ++ [')'] ++ rest = '(' :: (cs ++ ')' :: rest) := by
    simp only [List.append_assoc, List.cons_append, List.nil_append]
  rw [htext, tokens?_openParen, h _ (stops_cons (.inr (.inl rfl)) _), tokens?_closeParen,
    Option.map_map, Option.map_map]
  congr 1
  funext vs
  simp only [Function.comp_apply, List.append_assoc, List.cons_append, List.nil_append]

theorem spells_words (w : List Char) {ws : List (List Char)} (h : (w :: ws).all isWord = true) :
    Spells ([' '].intercalate (w :: ws)) ((w :: ws).map .word) := by
  induction ws generalizing w with
  | nil =>
      rw [List.intercalate_singleton]
      exact spells_word (List.all_eq_true.1 h w List.mem_cons_self)
  | cons v vs ih =>
      rw [List.all_cons, Bool.and_eq_true] at h
      rw [List.intercalate_cons_cons, List.append_assoc, List.map_cons]
      exact spells_append_blank (spells_word h.1) (ih v h.2)

/-- Literals with commas between them. -/
theorem spells_literals (first : String) (others : List String) :
    Spells ([',', ' '].intercalate ((first :: others).map fun o => quoted o.toList))
      ([Token.comma].intercalate ((first :: others).map fun o => [.literal o.toList])) := by
  induction others generalizing first with
  | nil =>
      simp only [List.map_cons, List.map_nil, List.intercalate_singleton]
      exact spells_literal first.toList
  | cons next others ih =>
      simp only [List.map_cons, List.intercalate_cons_cons] at ih ⊢
      exact spells_append_comma (spells_literal first.toList) (ih next)

/-- The words of a phrase, in which a blank stands between every two of them. -/
def phrase (text : String) : List Token :=
  (Text.splitOn ' ' text.toList).map .word

theorem spells_phrase {text : String} (h : (Text.splitOn ' ' text.toList).all isWord = true) :
    Spells text.toList (phrase text) := by
  have hjoin := Text.intercalate_splitOn ' ' text.toList
  unfold phrase
  rcases hsplit : Text.splitOn ' ' text.toList with _ | ⟨w, ws⟩
  · exact absurd hsplit (Text.splitOn_ne_nil ' ' text.toList)
  · rw [hsplit] at h hjoin
    rw [← hjoin]
    exact spells_words w h

theorem tokens?_of_spells {cs : List Char} {ts : List Token} (h : Spells cs ts) :
    tokens? cs = some ts := by
  have hall := h [] stops_nil
  rw [List.append_nil, tokens?_nil, Option.map_some, List.append_nil] at hall
  exact hall

end Sql

end GridQuery
