import GridQuery.Proofs.SurroundingBlanks

/-!
# Tokens as they are Shown

That the tokens of a condition can be read again as they are shown, with single blanks between them.

Showing a token is not spelling it. A keyword is shown in capitals, and an operator that has two
spellings in one of them, while words and literals stand as they are, the quotes of a literal put
back. What makes this harmless is that scanning only gives certain tokens: no literal has a quote in
it, and no word is empty, has a character that would end it, begins with a quote or is a keyword.
`Token.Writable` states this for all tokens. It is what scanning ensures, and it is also all that is
needed for a token to be spelled by what it is shown as.

A word is shown without anything around it, so two words side by side would be one. The blanks keep
all tokens apart, since a token ends before a blank at the latest.

## Main definitions

* `Token.Writable`: The tokens that texts have.
* `Token.shown`: Tokens as they are shown, with blanks between them.

## Theorems

* `Token.writable_of_spells`, `Token.writable_of_scans`: The tokens of a text are writable.
* `Token.spells_display`: A writable token is spelled by what it is shown as.
* `Token.scans_shown`: Writable tokens are read again.
* `Condition.scan_shown`: The tokens of a text are, and give the same condition or error.
-/

namespace GridQuery

namespace Token

open Text (BlankLed isBlank)

/-- Some text has the token: a literal has no quote in it, and a word is none that would be read as
anything else. -/
def Writable : Token → Prop
  | .quoted text => '\'' ∉ text.toList
  | .bare text => text.toList ≠ [] ∧ text.toList.head? ≠ some '\'' ∧
    text.toList.all isWordChar = true ∧ IsReadAs text.toList (.bare text)
  | _ => True

/-- The tokens as they are shown, with single blanks between them. -/
def shown (tokens : List Token) : String :=
  " ".intercalate (tokens.map display)

/-! ## The tokens of texts -/

theorem writable_of_isReadAs {word : List Char} {token : Token} (hne : word ≠ [])
    (hquote : word.head? ≠ some '\'') (hall : word.all isWordChar = true)
    (h : IsReadAs word token) : token.Writable := by
  cases h with
  | keyword hmem _ =>
      simp only [keywords, List.mem_cons, List.not_mem_nil, or_false, Prod.mk.injEq] at hmem
      rcases hmem with ⟨-, rfl⟩ | ⟨-, rfl⟩ | ⟨-, rfl⟩ <;> trivial
  | word hnone =>
      rw [Writable, String.toList_ofList]
      exact ⟨hne, hquote, hall, .word hnone⟩

theorem writable_of_spells {token : Token} {span rest : List Char} (h : Spells token span rest) :
    token.Writable := by
  cases h with
  | quoted _ hnot =>
      rw [Writable, String.toList_ofList]
      exact hnot
  | openParen _ => trivial
  | closeParen _ => trivial
  | operator _ _ => trivial
  | word hquote hall _ hread =>
      exact writable_of_isReadAs (List.cons_ne_nil _ _)
        (fun hhead => hquote (Option.some.inj hhead)) hall hread

theorem writable_of_scans {text : List Char} {tokens : List Token} (h : Scans text tokens) :
    ∀ token ∈ tokens, token.Writable := by
  induction h with
  | nil => exact fun _ hmem => absurd hmem List.not_mem_nil
  | blank _ _ ih => exact ih
  | token hc hlexeme _ ih =>
      rw [List.forall_mem_cons]
      exact ⟨writable_of_spells ((lexeme_eq_ok_iff hc).mp hlexeme).1, ih⟩

/-! ## Spelling what is shown -/

/-- A spelling of an operator stands for it, if nothing follows that could make it longer. -/
theorem spells_operator {spelling : List Char} {op : Comparison}
    (h : (spelling, op) ∈ operators) : Spells (.comparison op) spelling [] := by
  refine .operator h fun other _ hbegins => ?_
  rw [List.append_nil] at hbegins
  exact hbegins.length_le

theorem spells_word {word : List Char} {token : Token} (hne : word ≠ [])
    (hquote : word.head? ≠ some '\'') (hall : word.all isWordChar = true)
    (h : IsReadAs word token) : Spells token word [] := by
  rcases List.exists_cons_of_ne_nil hne with ⟨c, cs, rfl⟩
  exact .word (fun hc => hquote (congrArg some hc)) hall (fun _ hd => nomatch hd) h

theorem spells_display {token : Token} (h : token.Writable) :
    Spells token token.display.toList [] := by
  cases token with
  | quoted text =>
      -- What stands between quotes is taken as it is, up to the next quote.
      have hspells : Spells (.quoted (.ofList text.toList)) ('\'' :: text.toList ++ ['\'']) [] :=
        .quoted [] h
      have hquote : "'".toList = ['\''] := rfl
      rw [String.ofList_toList] at hspells
      rw [display, String.toList_append, String.toList_append, hquote, List.singleton_append]
      exact hspells
  | bare text => exact spells_word h.1 h.2.1 h.2.2.1 h.2.2.2
  -- A keyword is a word that is read as this token.
  | and =>
      exact spells_word (by decide) (by decide) (by decide) (.keyword (.head _) (by decide))
  | or =>
      exact spells_word (by decide) (by decide) (by decide)
        (.keyword (.tail _ (.head _)) (by decide))
  | comparison op =>
      cases op with
      | like =>
          exact spells_word (by decide) (by decide) (by decide)
            (.keyword (.tail _ (.tail _ (.head _))) (by decide))
      | equal | unequal | greater | greaterEqual | less | lessEqual =>
          exact spells_operator (by decide)
  | openParen => exact .openParen _
  | closeParen => exact .closeParen _

theorem scans_display {token : Token} (h : token.Writable) :
    Scans token.display.toList [token] := by
  have hspells := spells_display h
  rcases isBlank_of_spells hspells with ⟨c, cs, heq, hblank⟩
  rw [heq] at hspells ⊢
  have hlexeme : lexeme 0 c cs = .ok ⟨token, c :: cs, []⟩ :=
    (lexeme_eq_ok_iff hblank).mpr ⟨hspells, List.append_nil _⟩
  exact .token hblank hlexeme .nil

/-- Writable tokens are the tokens of what they are shown as. -/
theorem scans_shown {tokens : List Token} (h : ∀ token ∈ tokens, token.Writable) :
    Scans (shown tokens).toList tokens := by
  have hblank : " ".toList = [' '] := rfl
  rw [shown, String.toList_intercalate, hblank, List.map_map]
  induction tokens with
  | nil => exact .nil
  | cons token tokens ih =>
      rw [List.forall_mem_cons] at h
      cases tokens with
      | nil =>
          -- The last token is followed by nothing.
          rw [List.map_singleton, List.intercalate_singleton]
          exact scans_display h.1
      | cons next tokens =>
          -- Every other one is followed by a blank, which ends a word and is no part of an
          -- operator.
          have hrest : Scans (' ' :: _) (next :: tokens) := .blank (by decide) (ih h.2)
          rw [List.map_cons, List.map_cons, List.intercalate_cons_cons, ← List.map_cons,
            List.append_assoc, List.singleton_append]
          exact (scans_display h.1).append hrest (Text.blankLed_cons (by decide) _)

/-- A text without tokens is blank. -/
theorem trim_eq_empty_of_scans {s : String} (h : Scans s.toList []) : Text.trim s = "" := by
  have hall : ∀ cs tokens, Scans cs tokens → tokens = [] → cs.all isBlank = true := by
    intro cs tokens hscans
    induction hscans with
    | nil => exact fun _ => rfl
    | blank hc _ ih =>
        intro hnil
        rw [List.all_cons, hc, ih hnil]
        rfl
    | token _ _ _ _ => exact nofun
  rw [Text.trim, Text.dropAround_eq_nil_iff.mpr (hall _ _ h rfl)]

end Token

namespace Condition

/-- The tokens of a text, shown with single blanks between them, are a text with the same tokens.
If there is something besides blanks in the first text, then the second one is the same condition,
or fails with the same error. -/
theorem scan_shown {s : String} {located : List Located} (h : Token.scan s = .ok located) :
    (∃ again, Token.scan (Token.shown (located.map Located.token)) = .ok again ∧
      again.map Located.token = located.map Located.token) ∧
    (Text.trim s ≠ "" →
      parse (Token.shown (located.map Located.token)) = parse s) := by
  have hscans : Token.Scans s.toList (located.map Located.token) :=
    (Token.scans_iff 0).mpr ⟨located, h, rfl⟩
  rcases (Token.scans_iff 0).mp (Token.scans_shown (Token.writable_of_scans hscans)) with
    ⟨again, hagain, htokens⟩
  refine ⟨⟨again, hagain, htokens⟩, fun hne => ?_⟩
  -- A text with no tokens is blank.
  have hsome : located ≠ [] := by
    rintro rfl
    exact hne (Token.trim_eq_empty_of_scans hscans)
  have hsome' : again ≠ [] := by
    rintro rfl
    exact hsome (List.map_eq_nil_iff.mp htokens.symm)
  rw [parse_of_scan hagain hsome', parse_of_scan h hsome, htokens]

/-- A second spelling of an operator, keywords in other letters, a quote in a word, a literal that
is empty and one that spells a keyword, and hardly a blank between them. -/
theorem scan_shown_spellings :
    let s : String := "'and'<>o'r aNd x lIkE ''oR"
    let t : String := "'and' != o'r AND x LIKE '' OR"
    let tokens : List Token := [.quoted "and", .comparison .unequal, .bare "o'r", .and, .bare "x",
      .comparison .like, .quoted "", .or]
    (∃ located, Token.scan s = .ok located ∧ located.map Located.token = tokens) ∧
      Text.trim s ≠ "" ∧ Token.shown tokens = t ∧
      (∃ again, Token.scan t = .ok again ∧ again.map Located.token = tokens) ∧
      parse t = parse s := by
  intro s t tokens
  have hscan : Token.scan s = .ok [⟨.quoted "and", 0⟩, ⟨.comparison .unequal, 5⟩, ⟨.bare "o'r", 7⟩,
      ⟨.and, 11⟩, ⟨.bare "x", 15⟩, ⟨.comparison .like, 17⟩, ⟨.quoted "", 22⟩, ⟨.or, 24⟩] := by
    decide +kernel
  have hne : Text.trim s ≠ "" := by decide +kernel
  have hshown : Token.shown tokens = t := by decide +kernel
  have hagain := scan_shown hscan
  exact ⟨⟨_, hscan, rfl⟩, hne, hshown, hshown ▸ hagain.1, hshown ▸ hagain.2 hne⟩

end Condition

end GridQuery
