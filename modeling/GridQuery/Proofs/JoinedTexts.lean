import GridQuery.Proofs.ChainGrammar
import GridQuery.Proofs.TokenSpans

/-!
# Condition Texts Joined

Two condition texts with the word "and" between them are one condition text.

This is so for tokens first. A token ends before a blank at the latest, so what a text is cut into
does not depend on what follows it after a blank. `Scans` says which tokens a text has without their
positions, by one rule for a blank and one for a token, and joining texts is an induction over it.
Blanks at the ends of the two texts are harmless: reading drops those around the joined text and
scanning skips those inside it.

The grammar has one level only, so the tokens of the second expression continue the row of the
first, and its comparisons become further links of the first chain. What was a chain by itself is
no part of the joined one.

## Main definitions

* `Token.Scans`: The tokens of a text.
* `Text.BlankLed`: A text that is empty or begins with a blank.

## Theorems

* `Token.Spells.append`, `Token.lexeme_append`: A token and what follows its text after a blank.
* `Token.scans_iff`: The tokens that scanning finds.
* `Token.Scans.append`: A text and what follows it after a blank.
* `Condition.parse_append_and`: The condition of two texts that are joined by "and".
-/

namespace GridQuery

namespace Text

/-- The text is empty or begins with a blank. -/
def BlankLed (cs : List Char) : Prop := ∀ c ∈ cs.head?, isBlank c = true

theorem blankLed_cons {c : Char} (h : isBlank c = true) (cs : List Char) : BlankLed (c :: cs) := by
  intro d hd
  rw [List.head?_cons, Option.mem_def, Option.some.injEq] at hd
  exact hd ▸ h

/-- A word without blanks begins a text or not, whatever follows the text after a blank. -/
theorem isPrefixOf_append {word : List Char} (hword : ∀ c ∈ word, isBlank c = false)
    (cs : List Char) {rest : List Char} (hrest : BlankLed rest) :
    word.isPrefixOf (cs ++ rest) = word.isPrefixOf cs := by
  induction word generalizing cs with
  | nil => rfl
  | cons w word ih =>
      rw [List.forall_mem_cons] at hword
      cases cs with
      | nil =>
          cases rest with
          | nil => rfl
          | cons c rest =>
              -- The word goes on where the text ends, but a blank follows and the word has none.
              have hne : w ≠ c := by
                rintro rfl
                exact Bool.false_ne_true (hword.1.symm.trans (hrest w rfl))
              rw [List.nil_append, List.isPrefixOf_cons_cons, beq_eq_false_iff_ne.2 hne]
              rfl
      | cons c cs =>
          rw [List.cons_append, List.isPrefixOf_cons_cons, List.isPrefixOf_cons_cons, ih hword.2]

end Text

namespace Token

open Text (BlankLed isBlank)

/-! ## Single tokens -/

theorem isBlank_of_mem_operators {operator : List Char × Comparison} (h : operator ∈ operators) :
    ∀ c ∈ operator.1, isBlank c = false := by
  have hall : (operators.all fun entry => entry.1.all fun c => !isBlank c) = true := by decide
  intro c hc
  have hnot := List.all_eq_true.mp (List.all_eq_true.mp hall operator h) c hc
  rwa [Bool.not_eq_true'] at hnot

/-- A token is spelled by the same span, if a blank follows the text that it is spelled in. -/
theorem Spells.append {token : Token} {span text : List Char} (h : Spells token span text)
    {more : List Char} (hmore : BlankLed more) : Spells token span (text ++ more) := by
  cases h with
  | quoted _ hnot => exact .quoted _ hnot
  | openParen _ => exact .openParen _
  | closeParen _ => exact .closeParen _
  | operator hmem hmost =>
      refine .operator hmem fun other hother hbegins => hmost other hother ?_
      -- No operator reaches over the blank.
      rw [← List.append_assoc, ← List.isPrefixOf_iff_prefix,
        Text.isPrefixOf_append (isBlank_of_mem_operators hother) _ hmore] at hbegins
      exact List.isPrefixOf_iff_prefix.mp hbegins
  | word hquote hall hhead hread =>
      refine .word hquote hall (fun d hd => ?_) hread
      cases text with
      | nil => rw [isWordChar, hmore d hd, Bool.not_true, Bool.false_and]
      | cons c text => exact hhead d hd

/-- A token is the same wherever it stands, if a blank follows the text that it begins. -/
theorem lexeme_append {position : Nat} {c : Char} {rest : List Char} {x : Lexeme}
    (hc : isBlank c = false) (h : lexeme position c rest = .ok x) (position' : Nat)
    {more : List Char} (hmore : BlankLed more) :
    lexeme position' c (rest ++ more) = .ok ⟨x.token, x.span, x.rest ++ more⟩ := by
  rcases (lexeme_eq_ok_iff hc).mp h with ⟨hspells, hsplit⟩
  refine (lexeme_eq_ok_iff hc).mpr ⟨hspells.append hmore, ?_⟩
  rw [← List.append_assoc, hsplit, List.cons_append]

/-! ## The tokens of a text -/

/-- The tokens of a text: blanks are skipped, and every other character begins a token. -/
inductive Scans : List Char → List Token → Prop
  | nil : Scans [] []
  | blank {c : Char} {cs : List Char} {tokens : List Token} :
    isBlank c = true → Scans cs tokens → Scans (c :: cs) tokens
  | token {position : Nat} {c : Char} {cs : List Char} {x : Lexeme} {tokens : List Token} :
    isBlank c = false → lexeme position c cs = .ok x → Scans x.rest tokens →
      Scans (c :: cs) (x.token :: tokens)

theorem Scans.blanks {us cs : List Char} {tokens : List Token} (hus : us.all isBlank = true)
    (h : Scans cs tokens) : Scans (us ++ cs) tokens := by
  induction us with
  | nil => exact h
  | cons c us ih =>
      rw [List.all_cons, Bool.and_eq_true] at hus
      exact .blank hus.1 (ih hus.2)

/-- The tokens that are read off the front of a text, and those of its rest. -/
theorem scans_of_laid {position finish : Nat} {text rest : List Char} {located : List Located}
    {tokens : List Token} (h : Laid position text located finish rest) (hrest : Scans rest tokens) :
    Scans text (located.map Located.token ++ tokens) := by
  induction h with
  | nil _ _ => exact hrest
  | @cons position _ blanks span text _ token _ hblanks hspells _ ih =>
      rcases isBlank_of_spells hspells with ⟨c, cs, rfl, hc⟩
      have hlexeme : lexeme position c (cs ++ text) = .ok ⟨token, c :: cs, text⟩ :=
        (lexeme_eq_ok_iff hc).mpr ⟨hspells, List.cons_append⟩
      exact (Scans.token hc hlexeme (ih hrest)).blanks hblanks

/-- The tokens of a text are those that scanning finds, at whichever position it begins. -/
theorem scans_iff {cs : List Char} {tokens : List Token} (position : Nat) :
    Scans cs tokens ↔
      ∃ located, scanFrom position cs = .ok located ∧ located.map Located.token = tokens := by
  constructor
  · intro h
    induction h generalizing position with
    | nil => exact ⟨[], scanFrom_nil position, rfl⟩
    | blank hc _ ih =>
        rw [scanFrom, if_pos hc]
        exact ih _
    | @token _ c cs x tokens hc hlexeme _ ih =>
        rcases ih (position + byteSize x.span) with ⟨located, hscan, rfl⟩
        -- The position only moves on, whatever the token is.
        rcases (lexeme_eq_ok_iff hc).mp hlexeme with ⟨hspells, hsplit⟩
        refine ⟨⟨x.token, position⟩ :: located, ?_, rfl⟩
        rw [← hsplit, scanFrom_of_spells hspells, hscan, Except.map]
  · rintro ⟨located, hscan, rfl⟩
    rcases scanFrom_eq_ok_iff.mp hscan with ⟨finish, blanks, hlaid, hblanks⟩
    -- Behind the last token there are blanks at most.
    have hend : Scans blanks [] := by
      rw [← List.append_nil blanks]
      exact Scans.nil.blanks hblanks
    rw [← List.append_nil (located.map Located.token)]
    exact scans_of_laid hlaid hend

/-- A text that ends before a blank is cut as it is cut alone. -/
theorem Scans.append {cs ds : List Char} {tokens others : List Token} (hcs : Scans cs tokens)
    (hds : Scans ds others) (hblank : BlankLed ds) : Scans (cs ++ ds) (tokens ++ others) := by
  induction hcs with
  | nil => exact hds
  | blank hc _ ih => exact .blank hc ih
  | @token position c cs x tokens hc hlexeme _ ih =>
      have hmoved := lexeme_append hc hlexeme position hblank
      rw [List.cons_append, List.cons_append]
      exact @Token.Scans.token position c (cs ++ ds) ⟨x.token, x.span, x.rest ++ ds⟩ _ hc hmoved ih

/-- Two texts with a word between them that stands between blanks. -/
theorem Scans.join {cs word ds : List Char} {tokens others : List Token} {token : Token}
    (hcs : Scans cs tokens) (hword : Scans word [token]) (hds : Scans ds others)
    {us vs : List Char} (hus : us.all isBlank = true) (hvs : vs.all isBlank = true) :
    Scans (cs ++ (us ++ ' ' :: word ++ ' ' :: vs) ++ ds) (tokens ++ token :: others) := by
  have hafter : Scans (' ' :: (vs ++ ds)) others := .blank (by decide) (hds.blanks hvs)
  have hrest := hword.append hafter (Text.blankLed_cons (by decide) _)
  have hall : Scans (us ++ ' ' :: (word ++ ' ' :: (vs ++ ds))) (token :: others) :=
    Scans.blanks hus (.blank (by decide) hrest)
  -- Whatever blanks stand around the word, the first text is followed by one.
  have hled : BlankLed (us ++ ' ' :: (word ++ ' ' :: (vs ++ ds))) := by
    cases us with
    | nil => exact Text.blankLed_cons (by decide) _
    | cons u us =>
        rw [List.all_cons, Bool.and_eq_true] at hus
        exact Text.blankLed_cons hus.1 _
  have htext : cs ++ (us ++ ' ' :: word ++ ' ' :: vs) ++ ds =
      cs ++ (us ++ ' ' :: (word ++ ' ' :: (vs ++ ds))) := by
    simp only [List.append_assoc, List.cons_append]
  rw [htext]
  exact hcs.append hall hled

end Token

/-! ## Conditions -/

theorem IsTail.append {ts us : List Token} {links others : List (Conjunction × Leaf)}
    (hts : IsTail ts links) (hus : IsTail us others) : IsTail (ts ++ us) (links ++ others) := by
  induction hts with
  | nil => exact hus
  | cons hjoint hfilter _ ih =>
      rw [List.cons_append, List.append_assoc]
      exact .cons hjoint hfilter ih

namespace Condition

/-- The condition of a text, by the tokens of the text without the blanks around it. -/
theorem parse_eq_ok_iff_scans {s : String} {condition : Condition} :
    parse s = .ok condition ↔
      ∃ tokens, Token.Scans (Text.dropAround Text.isBlank s.toList) tokens ∧
        ofTokens tokens = .ok condition := by
  have htrim : (Text.trim s).toList = Text.dropAround Text.isBlank s.toList := String.toList_ofList
  simp only [parse_eq_ok_iff, Token.scan, htrim, Token.scans_iff 0]
  constructor
  · rintro ⟨located, hscan, htokens⟩
    exact ⟨_, ⟨located, hscan, rfl⟩, htokens⟩
  · rintro ⟨_, ⟨located, hscan, rfl⟩, htokens⟩
    exact ⟨located, hscan, htokens⟩

/-- Where a condition was read, there is something besides blanks. -/
theorem not_isEmpty_trim_of_parse {s : String} {condition : Condition}
    (h : parse s = .ok condition) : ¬ (Text.trim s).isEmpty = true := by
  intro hempty
  rw [parse, if_pos hempty] at h
  exact absurd h (by simp only [reduceCtorEq, not_false_eq_true])

theorem dropAround_ne_nil_of_parse {s : String} {condition : Condition}
    (h : parse s = .ok condition) : Text.dropAround Text.isBlank s.toList ≠ [] := by
  intro hnil
  refine not_isEmpty_trim_of_parse h ?_
  rw [String.isEmpty_iff, Text.trim, hnil]

/-- What is left of the joined text is what is left of the two, with the word between them. -/
theorem exists_dropAround_append {a b : String}
    (ha : Text.dropAround Text.isBlank a.toList ≠ [])
    (hb : Text.dropAround Text.isBlank b.toList ≠ []) :
    ∃ us vs, us.all Text.isBlank = true ∧ vs.all Text.isBlank = true ∧
      Text.dropAround Text.isBlank (a ++ " and " ++ b).toList =
        Text.dropAround Text.isBlank a.toList ++ (us ++ ' ' :: "and".toList ++ ' ' :: vs) ++
          Text.dropAround Text.isBlank b.toList := by
  -- The blanks behind the first text and before the second one come to stand around the word.
  rcases Text.exists_dropAround Text.isBlank a.toList with ⟨before, us, ha', hbefore, hus, hhead, -⟩
  rcases Text.exists_dropAround Text.isBlank b.toList with ⟨vs, after, hb', hvs, hafter, -, hlast⟩
  refine ⟨us, vs, hus, hvs, ?_⟩
  generalize Text.dropAround Text.isBlank a.toList = left at *
  generalize Text.dropAround Text.isBlank b.toList = right at *
  have htext : (a ++ " and " ++ b).toList =
      before ++ (left ++ (us ++ ' ' :: "and".toList ++ ' ' :: vs) ++ right) ++ after := by
    have hword : " and ".toList = ' ' :: "and".toList ++ [' '] := rfl
    rw [String.toList_append, String.toList_append, ha', hb', hword]
    simp only [List.append_assoc, List.cons_append, List.nil_append]
  rw [htext]
  refine Text.dropAround_append hbefore hafter ?_ ?_ ?_
  · -- The joined text begins with the first text and ends with the second, both without blanks
    -- there.
    rcases List.exists_cons_of_ne_nil ha with ⟨c, tail, rfl⟩
    exact hhead
  · intro c hc
    rw [List.getLast?_append_of_ne_nil _ hb] at hc
    exact hlast c hc
  · exact List.append_ne_nil_of_right_ne_nil _ hb

/-- Two condition texts that are joined by "and" are one: the comparisons of the second become
further links of the first. -/
theorem parse_append_and {a b : String} {left right : Condition} (ha : parse a = .ok left)
    (hb : parse b = .ok right) :
    ∃ first links, right = chainOf first links ∧
      parse (a ++ " and " ++ b) = .ok (links.foldl link (left.link (.and, first))) := by
  rcases parse_eq_ok_iff_scans.1 ha with ⟨tokens, hscans, htokens⟩
  rcases parse_eq_ok_iff_scans.1 hb with ⟨others, hscans', hothers⟩
  -- Each text is a first leaf and a tail of links.
  rcases ofTokens_eq_ok_iff.1 htokens with
    ⟨head, tail, @⟨filter, rest, _, _, hfilter, htail⟩, rfl⟩
  rcases ofTokens_eq_ok_iff.1 hothers with
    ⟨first, links, @⟨filter', rest', _, _, hfilter', htail'⟩, rfl⟩
  rcases exists_dropAround_append (dropAround_ne_nil_of_parse ha) (dropAround_ne_nil_of_parse hb)
    with ⟨us, vs, hus, hvs, hjoined⟩
  have hand : Token.Scans "and".toList [.and] :=
    (Token.scans_iff 0).2 ⟨[⟨.and, 0⟩], by decide +kernel, rfl⟩
  refine ⟨first, links, rfl, parse_eq_ok_iff_scans.2
    ⟨filter ++ rest ++ .and :: (filter' ++ rest'), ?_,
      ofTokens_eq_ok_iff.2 ⟨head, tail ++ (.and, first) :: links, ?_, ?_⟩⟩⟩
  · -- The tokens of the joined text are those of both with the word between them.
    rw [hjoined]
    exact hscans.join hand hscans' hus hvs
  · -- The second leaf is one link more of the chain, and its own tail follows.
    rw [List.append_assoc]
    exact ⟨hfilter, htail.append (.cons .and hfilter' htail')⟩
  · -- From the left, the first chain is folded before the link that joins them.
    rw [chainOf, chainOf, List.foldl_append]
    rfl

end Condition

end GridQuery
