import GridQuery.Condition.Token
import GridQuery.Proofs.Numerals
import GridQuery.Proofs.Outcome

/-!
# Where the Tokens of a Condition Stand

That scanning loses nothing: a text is its tokens, as they are spelled, with blanks between them.

What spells a token is said without the scanner. For some tokens it depends on what follows. A word
goes on for as long as it can, and an operator is the longest one that stands there, so `Spells` has
the rest of the text beside the span. `Laid` puts spans together: it reads tokens off the front of a
text, with blanks before each, counts the bytes that it passes, and leaves the rest wherever it
stops. A text that is scanned is laid out to its end, but for blanks. A text that is not is laid out
to the place where it is blocked, and there are only two ways to be: an exclamation mark that begins
no operator, and a quote that no other follows.

Each direction is proved once. Whatever is laid out is scanned as it is laid out, up to the rest;
and every text is laid out either to its end or to where it is blocked. The two outcomes of a scan
are then read off, because no text has both.

## Main definitions

* `Token.keywords`, `Token.IsReadAs`: The words that are keywords, and what a word is read as.
* `Token.Spells`: The spans of a token, before a rest.
* `Token.Laid`: Tokens at their positions, read off the front of a text.
* `Token.Blocked`: The places where no token begins, and how they are reported.

## Theorems

* `Token.find?_operators_eq_some_iff`: The operator that is found is the longest one.
* `Token.lexeme_eq_ok_iff`, `Token.lexeme_eq_error_iff`: One token, or none.
* `Token.scanFrom_of_laid`: What is laid out is scanned.
* `Token.exists_laid`: Every text is laid out to its end or to where it is blocked.
* `Token.scanFrom_eq_ok_iff`, `Token.scanFrom_eq_error_iff`: What a scan says of the layout.
* `Token.positions_of_laid`: Positions go up, and each is the size of what stands before it.
* `Token.scan_layout`: The texts that are scanned, and those that are not.
-/

namespace GridQuery

namespace Token

/-- The words with a meaning of their own, in small letters. -/
def keywords : List (List Char × Token) :=
  [(['a', 'n', 'd'], .and), (['o', 'r'], .or), (['l', 'i', 'k', 'e'], .comparison .like)]

/-- A word is read as the keyword that it is up to the case of ASCII letters, or as itself. -/
inductive IsReadAs : List Char → Token → Prop
  | keyword {word spelling : List Char} {token : Token} :
    (spelling, token) ∈ keywords → word.map Char.toLower = spelling → IsReadAs word token
  | word {word : List Char} :
    (∀ keyword ∈ keywords, word.map Char.toLower ≠ keyword.1) →
      IsReadAs word (.bare (.ofList word))

/-- The token is spelled by the span, where the rest follows. A literal runs to the next quote, an
operator is the longest one that stands there, and a word ends only at a blank or at a character of
operators and parentheses. -/
inductive Spells : Token → List Char → List Char → Prop
  | quoted {content : List Char} (rest : List Char) :
    '\'' ∉ content → Spells (.quoted (.ofList content)) ('\'' :: content ++ ['\'']) rest
  | openParen (rest : List Char) : Spells .openParen ['('] rest
  | closeParen (rest : List Char) : Spells .closeParen [')'] rest
  | operator {spelling rest : List Char} {op : Comparison} :
    (spelling, op) ∈ operators →
      (∀ other ∈ operators, other.1 <+: spelling ++ rest → other.1.length ≤ spelling.length) →
      Spells (.comparison op) spelling rest
  | word {c : Char} {cs rest : List Char} {token : Token} :
    c ≠ '\'' → (c :: cs).all isWordChar = true → (∀ d ∈ rest.head?, isWordChar d = false) →
      IsReadAs (c :: cs) token → Spells token (c :: cs) rest

/-- The text from a position on is blanks and a token, blanks and a token, and so on, and then the
rest at the last position. -/
inductive Laid : Nat → List Char → List Located → Nat → List Char → Prop
  | nil (position : Nat) (rest : List Char) : Laid position rest [] position rest
  | cons {position finish : Nat} {blanks span text rest : List Char} {token : Token}
    {tokens : List Located} :
    blanks.all Text.isBlank = true → Spells token span text →
      Laid (position + byteSize blanks + byteSize span) text tokens finish rest →
      Laid position (blanks ++ (span ++ text)) (⟨token, position + byteSize blanks⟩ :: tokens)
        finish rest

/-- No token begins here: an exclamation mark without an equals sign, or a quote without another. -/
inductive Blocked : Nat → List Char → SyntaxError → Prop
  | mark (position : Nat) {rest : List Char} :
    rest.head? ≠ some '=' → Blocked position ('!' :: rest) (.unexpectedToken "!")
  | quote (position : Nat) {rest : List Char} :
    '\'' ∉ rest → Blocked position ('\'' :: rest) (.unterminatedString position)

/-! ## Sizes -/

theorem byteSize_append (cs ds : List Char) : byteSize (cs ++ ds) = byteSize cs + byteSize ds := by
  induction cs with
  | nil => rw [List.nil_append, byteSize, Nat.zero_add]
  | cons c cs ih => rw [List.cons_append, byteSize, byteSize, ih, Nat.add_assoc]

theorem byteSize_pos {cs : List Char} (h : cs ≠ []) : 0 < byteSize cs := by
  cases cs with
  | nil => exact absurd rfl h
  | cons c cs => exact Nat.add_pos_left c.utf8Size_pos (byteSize cs)

theorem utf8ByteSize_ofList (cs : List Char) :
    (String.ofList cs).utf8ByteSize = byteSize cs := by
  induction cs with
  | nil => rfl
  | cons c cs ih =>
      rw [String.ofList_cons, String.utf8ByteSize_append, String.utf8ByteSize_singleton, ih,
        byteSize]

/-! ## Words and operators -/

theorem ofWord_ofList (word : List Char) :
    ofWord (.ofList word) =
      if word.map Char.toLower = ['a', 'n', 'd'] then .and
      else if word.map Char.toLower = ['o', 'r'] then .or
      else if word.map Char.toLower = ['l', 'i', 'k', 'e'] then .comparison .like
      else .bare (.ofList word) := by
  have hand : "and".toList.map Char.toLower = ['a', 'n', 'd'] := by decide
  have hor : "or".toList.map Char.toLower = ['o', 'r'] := by decide
  have hlike : "like".toList.map Char.toLower = ['l', 'i', 'k', 'e'] := by decide
  simp only [ofWord, Text.sameIgnoringCase, String.toList_ofList, hand, hor, hlike, beq_iff_eq]

theorem isReadAs_iff {word : List Char} {token : Token} :
    IsReadAs word token ↔ ofWord (.ofList word) = token := by
  rw [ofWord_ofList]
  constructor
  · rintro (⟨hmem, hword⟩ | hnone)
    · -- There are three keywords, and a word that is none of them passes all three.
      simp only [keywords, List.mem_cons, List.not_mem_nil, or_false, Prod.mk.injEq] at hmem
      rcases hmem with ⟨rfl, rfl⟩ | ⟨rfl, rfl⟩ | ⟨rfl, rfl⟩ <;> rw [hword] <;> rfl
    · rw [if_neg (hnone _ (.head _)), if_neg (hnone _ (.tail _ (.head _))),
        if_neg (hnone _ (.tail _ (.tail _ (.head _))))]
  · -- The keywords are looked for in turn, and behind the last one the word is itself.
    rintro rfl
    split
    · next hand => exact .keyword (.head _) hand
    · next hand =>
        split
        · next hor => exact .keyword (.tail _ (.head _)) hor
        · next hor =>
            split
            · next hlike => exact .keyword (.tail _ (.tail _ (.head _))) hlike
            · next hlike =>
                refine .word fun keyword hmem => ?_
                simp only [keywords, List.mem_cons, List.not_mem_nil, or_false] at hmem
                rcases hmem with rfl | rfl | rfl
                · exact hand
                · exact hor
                · exact hlike

/-- Where two operators begin alike, the longer one is looked for first. -/
theorem operators_sorted : operators.Pairwise fun a b => b.1.length ≤ a.1.length := by
  decide

/-- No two operators are spelled alike. -/
theorem eq_of_mem_operators {a b : List Char × Comparison} (ha : a ∈ operators)
    (hb : b ∈ operators) (h : a.1 = b.1) : a = b := by
  have hunique : ∀ a ∈ operators, ∀ b ∈ operators, a.1 = b.1 → a = b := by decide
  exact hunique a ha b hb h

/-- The operator that is found at the start of a text is the longest one that stands there. -/
theorem find?_operators_eq_some_iff {cs spelling : List Char} {op : Comparison} :
    (operators.find? fun (spelling, _) => spelling.isPrefixOf cs) = some (spelling, op) ↔
      (spelling, op) ∈ operators ∧ spelling <+: cs ∧
        ∀ other ∈ operators, other.1 <+: cs → other.1.length ≤ spelling.length := by
  -- The operators are listed with the longer ones first, and so the first that stands there is a
  -- longest one.
  have hlongest : ∀ found, (operators.find? fun (spelling, _) => spelling.isPrefixOf cs) =
      some found → found ∈ operators ∧ found.1 <+: cs ∧
        ∀ other ∈ operators, other.1 <+: cs → other.1.length ≤ found.1.length := by
    intro found h
    rcases List.find?_eq_some_iff_append.mp h with ⟨hbegins, before, after, hsplit, hbefore⟩
    refine ⟨List.mem_of_find?_eq_some h, List.isPrefixOf_iff_prefix.mp hbegins, ?_⟩
    intro other hmem hother
    have hsorted := operators_sorted
    rw [hsplit] at hmem hsorted
    rcases List.mem_append.mp hmem with hin | hin
    · -- What comes before the one that is found does not stand there.
      have hnot : (!other.1.isPrefixOf cs) = true := hbefore other hin
      rw [List.isPrefixOf_iff_prefix.mpr hother] at hnot
      exact absurd hnot (by decide)
    · rcases List.mem_cons.mp hin with rfl | hin
      · exact Nat.le_refl _
      · exact List.rel_of_pairwise_cons (List.pairwise_append.mp hsorted).2.1 hin
  constructor
  · exact hlongest (spelling, op)
  · -- Something is found, and of two operators that stand there neither is longer.
    rintro ⟨hmem, hbegins, hmost⟩
    have hsome : (operators.find? fun (spelling, _) => spelling.isPrefixOf cs).isSome = true :=
      List.find?_isSome.mpr ⟨_, hmem, List.isPrefixOf_iff_prefix.mpr hbegins⟩
    rcases Option.isSome_iff_exists.mp hsome with ⟨found, hfound⟩
    rcases hlongest found hfound with ⟨hmem', hbegins', hmost'⟩
    have hlength : spelling.length = found.1.length :=
      Nat.le_antisymm (hmost' _ hmem hbegins) (hmost found hmem' hbegins')
    have hspelling : spelling = found.1 :=
      (List.prefix_of_prefix_length_le hbegins hbegins' (Nat.le_of_eq hlength)).eq_of_length hlength
    rw [hfound, eq_of_mem_operators hmem hmem' hspelling]

/-- A sign of an operator is one itself, but for the exclamation mark, which needs another. -/
theorem find?_operators_eq_none_iff {c : Char} (hc : c ∈ ['=', '!', '<', '>']) (rest : List Char) :
    (operators.find? fun (spelling, _) => spelling.isPrefixOf (c :: rest)) = none ↔
      c = '!' ∧ rest.head? ≠ some '=' := by
  simp only [List.mem_cons, List.not_mem_nil, or_false] at hc
  rcases hc with rfl | rfl | rfl | rfl
  · simp [operators]
  · -- Only the exclamation mark is no operator by itself; it needs the sign behind it.
    cases rest with
    | nil => simp [operators]
    | cons d rest =>
        by_cases hd : d = '='
        · simp [operators, hd]
        · simp [operators, hd, Ne.symm hd]
  · simp [operators]
  · simp [operators]

theorem exists_cons_of_mem_operators {operator : List Char × Comparison}
    (h : operator ∈ operators) :
    ∃ c cs, operator.1 = c :: cs ∧ c ∈ ['=', '!', '<', '>'] := by
  simp only [operators, List.mem_cons, List.not_mem_nil, or_false] at h
  rcases h with rfl | rfl | rfl | rfl | rfl | rfl | rfl <;> exact ⟨_, _, rfl, by decide⟩

/-! ## One token -/

/-- What a character may begin. -/
theorem char_cases (c : Char) :
    c = '\'' ∨ c = '(' ∨ c = ')' ∨ c ∈ ['=', '!', '<', '>'] ∨
      c ≠ '\'' ∧ isOperatorChar c = false := by
  by_cases hquote : c = '\''
  · exact .inl hquote
  · cases hsign : isOperatorChar c with
    | false => exact .inr (.inr (.inr (.inr ⟨hquote, rfl⟩)))
    | true =>
        -- Four of the six signs begin an operator, and the other two are the parentheses.
        simp only [isOperatorChar, Bool.or_eq_true, decide_eq_true_eq] at hsign
        rcases hsign with ((((rfl | rfl) | rfl) | rfl) | hopen) | hclose
        · exact .inr (.inr (.inr (.inl (by decide))))
        · exact .inr (.inr (.inr (.inl (by decide))))
        · exact .inr (.inr (.inr (.inl (by decide))))
        · exact .inr (.inr (.inr (.inl (by decide))))
        · exact .inr (.inl hopen)
        · exact .inr (.inr (.inl hclose))

theorem lexeme_operator {c : Char} (hc : c ∈ ['=', '!', '<', '>']) (position : Nat)
    (rest : List Char) :
    lexeme position c rest =
      match operators.find? fun (spelling, _) => spelling.isPrefixOf (c :: rest) with
      | none => .error (.unexpectedToken (.ofList [c]))
      | some (spelling, op) =>
        .ok ⟨.comparison op, spelling, (c :: rest).drop spelling.length⟩ := by
  simp only [List.mem_cons, List.not_mem_nil, or_false] at hc
  rcases hc with rfl | rfl | rfl | rfl <;> rfl

theorem lexeme_word {c : Char} (hquote : c ≠ '\'') (hc : isOperatorChar c = false) (position : Nat)
    (rest : List Char) :
    lexeme position c rest =
      .ok ⟨ofWord (.ofList (c :: rest.takeWhile isWordChar)), c :: rest.takeWhile isWordChar,
        rest.dropWhile isWordChar⟩ := by
  have hparen : c ≠ '(' ∧ c ≠ ')' := by
    constructor
    · rintro rfl
      exact absurd hc (by decide)
    · rintro rfl
      exact absurd hc (by decide)
  rw [lexeme, if_neg hquote, if_neg hparen.1, if_neg hparen.2, hc, if_neg Bool.false_ne_true]

/-- One token is read where it is spelled, with what follows it left over. -/
theorem lexeme_eq_ok_iff {position : Nat} {c : Char} {rest span text : List Char} {token : Token}
    (hblank : Text.isBlank c = false) :
    lexeme position c rest = .ok ⟨token, span, text⟩ ↔
      Spells token span text ∧ span ++ text = c :: rest := by
  constructor
  · intro h
    refine ⟨?_, span_append_rest h⟩
    rcases char_cases c with rfl | rfl | rfl | hc | ⟨hquote, hc⟩
    · rw [lexeme, if_pos rfl] at h
      split at h
      · exact nomatch h
      · next content after hcut =>
          cases h
          exact .quoted _ (Text.cut_eq_some_iff.mp hcut).2
    · cases h
      exact .openParen _
    · cases h
      exact .closeParen _
    · rw [lexeme_operator hc] at h
      split at h
      · exact nomatch h
      · next spelling op hfind =>
          cases h
          rcases find?_operators_eq_some_iff.mp hfind with ⟨hmem, hbegins, hmost⟩
          refine .operator hmem ?_
          rw [List.prefix_iff_eq_append.mp hbegins]
          exact hmost
    · -- The word was cut off as a run, so it is maximal.
      rw [lexeme_word hquote hc] at h
      cases h
      have hword : isWordChar c = true := by rw [isWordChar, hblank, hc]; rfl
      refine .word hquote ?_ ?_ (isReadAs_iff.mpr rfl)
      · rw [List.all_cons, hword, List.all_takeWhile]
        rfl
      · intro d hd
        exact Bool.eq_false_iff.mpr fun htrue => absurd (List.head?_dropWhile_not isWordChar rest)
          (by rw [Option.mem_def.mp hd]; simp [htrue])
  · rintro ⟨hspells, happend⟩
    cases hspells with
    | @quoted content _ hnot =>
        rw [List.cons_append, List.cons_append, List.cons.injEq, List.append_assoc,
          List.singleton_append] at happend
        rcases happend with ⟨rfl, rfl⟩
        rw [lexeme, if_pos rfl, Text.cut_append_cons hnot]
    | openParen _ =>
        cases happend
        rfl
    | closeParen _ =>
        cases happend
        rfl
    | @operator _ _ op hmem hmost =>
        -- The character that the text begins with is the first one of the operator.
        rcases exists_cons_of_mem_operators hmem with ⟨d, cs, hspelling, hd⟩
        have hc : d = c := by
          have hhead := happend
          simp only at hspelling
          rw [hspelling, List.cons_append, List.cons.injEq] at hhead
          exact hhead.1
        have hfind := find?_operators_eq_some_iff.mpr ⟨hmem, List.prefix_append span text, hmost⟩
        rw [lexeme_operator (hc ▸ hd), ← happend, hfind]
        simp only [List.drop_left]
    | @word d cs _ _ hquote hall hhead hread =>
        rw [List.cons_append, List.cons.injEq] at happend
        rcases happend with ⟨rfl, rfl⟩
        rw [List.all_cons, Bool.and_eq_true] at hall
        have hc : isOperatorChar d = false := by
          have hword := hall.1
          rw [isWordChar, Bool.and_eq_true, Bool.not_eq_true', Bool.not_eq_true'] at hword
          exact hword.2
        rcases Text.run_append hall.2 hhead with ⟨htake, hdrop⟩
        rw [lexeme_word hquote hc, htake, hdrop, isReadAs_iff.mp hread]

/-- No token is read where it is blocked. -/
theorem lexeme_eq_error_iff {position : Nat} {c : Char} {rest : List Char} {e : SyntaxError} :
    lexeme position c rest = .error e ↔ Blocked position (c :: rest) e := by
  constructor
  · intro h
    -- What the first character is decides: only a quote and an exclamation mark can fail.
    rcases char_cases c with rfl | rfl | rfl | hc | ⟨hquote, hc⟩
    · rw [lexeme, if_pos rfl] at h
      split at h
      · next hcut =>
          cases h
          exact .quote _ (Text.cut_eq_none_iff.mp hcut)
      · exact nomatch h
    · exact nomatch h
    · exact nomatch h
    · rw [lexeme_operator hc] at h
      split at h
      · next hfind =>
          rcases (find?_operators_eq_none_iff hc rest).mp hfind with ⟨rfl, hhead⟩
          cases h
          exact .mark _ hhead
      · exact nomatch h
    · rw [lexeme_word hquote hc] at h
      exact nomatch h
  · intro h
    cases h with
    | mark hhead =>
        have hc : '!' ∈ ['=', '!', '<', '>'] := by decide
        rw [lexeme_operator hc, (find?_operators_eq_none_iff hc rest).mpr ⟨rfl, hhead⟩]
    | quote hnot => rw [lexeme, if_pos rfl, Text.cut_eq_none_iff.mpr hnot]

theorem isBlank_of_spells {token : Token} {span text : List Char} (h : Spells token span text) :
    ∃ c cs, span = c :: cs ∧ Text.isBlank c = false := by
  -- A span begins with a sign or with a character of a word, and neither is a blank.
  cases h with
  | quoted _ _ => exact ⟨_, _, rfl, by decide⟩
  | openParen _ => exact ⟨_, _, rfl, by decide⟩
  | closeParen _ => exact ⟨_, _, rfl, by decide⟩
  | operator hmem _ =>
      rcases exists_cons_of_mem_operators hmem with ⟨c, cs, hspelling, hc⟩
      refine ⟨c, cs, hspelling, ?_⟩
      simp only [List.mem_cons, List.not_mem_nil, or_false] at hc
      rcases hc with rfl | rfl | rfl | rfl <;> decide
  | word _ hall _ _ =>
      rw [List.all_cons, Bool.and_eq_true, isWordChar, Bool.and_eq_true, Bool.not_eq_true'] at hall
      exact ⟨_, _, rfl, hall.1.1⟩

theorem isBlank_of_blocked {position : Nat} {text : List Char} {e : SyntaxError}
    (h : Blocked position text e) : ∃ c rest, text = c :: rest ∧ Text.isBlank c = false := by
  cases h with
  | mark _ => exact ⟨_, _, rfl, by decide⟩
  | quote _ => exact ⟨_, _, rfl, by decide⟩

/-! ## Scanning step by step -/

theorem scanFrom_nil (position : Nat) : scanFrom position [] = .ok [] := by
  rw [scanFrom]

theorem scanFrom_blanks {blanks : List Char} (h : blanks.all Text.isBlank = true) (position : Nat)
    (text : List Char) :
    scanFrom position (blanks ++ text) = scanFrom (position + byteSize blanks) text := by
  induction blanks generalizing position with
  | nil => rw [List.nil_append, byteSize, Nat.add_zero]
  | cons c blanks ih =>
      rw [List.all_cons, Bool.and_eq_true] at h
      rw [List.cons_append, scanFrom, if_pos h.1, ih h.2, byteSize, Nat.add_assoc]

theorem scanFrom_of_spells {token : Token} {span text : List Char} (h : Spells token span text)
    (position : Nat) :
    scanFrom position (span ++ text) =
      (scanFrom (position + byteSize span) text).map (⟨token, position⟩ :: ·) := by
  rcases isBlank_of_spells h with ⟨c, cs, rfl, hblank⟩
  have hlexeme : lexeme position c (cs ++ text) = .ok ⟨token, c :: cs, text⟩ :=
    (lexeme_eq_ok_iff hblank).mpr ⟨h, List.cons_append⟩
  -- The scanner keeps the outcome of the token for its termination, so it is split and compared.
  rw [List.cons_append, scanFrom, if_neg (by rw [hblank]; decide)]
  split
  · next e herror => cases herror.symm.trans hlexeme
  · next x hx =>
      cases hx.symm.trans hlexeme
      rfl

theorem scanFrom_of_blocked {position : Nat} {text : List Char} {e : SyntaxError}
    (h : Blocked position text e) : scanFrom position text = .error e := by
  rcases isBlank_of_blocked h with ⟨c, rest, rfl, hblank⟩
  have hlexeme := lexeme_eq_error_iff.mpr h
  rw [scanFrom, if_neg (by rw [hblank]; decide)]
  split
  · next e' herror =>
      cases herror.symm.trans hlexeme
      rfl
  · next x hx => cases hx.symm.trans hlexeme

/-- What is laid out is scanned as it is laid out, and the rest is scanned where it begins. -/
theorem scanFrom_of_laid {position finish : Nat} {text rest : List Char} {tokens : List Located}
    (h : Laid position text tokens finish rest) :
    scanFrom position text = (scanFrom finish rest).map (tokens ++ ·) := by
  induction h with
  | nil position rest =>
      cases scanFrom position rest with
      | error e => rfl
      | ok tokens => rfl
  | cons hblanks hspells _ ih =>
      rw [scanFrom_blanks hblanks, scanFrom_of_spells hspells, ih]
      -- The token is put in front of what the rest gives, and an error of the rest stays as it is.
      cases scanFrom _ _ with
      | error e => rfl
      | ok tokens => rfl

/-- Every text is laid out, up to the blanks at its end or to a place where it is blocked. -/
theorem exists_laid (position : Nat) (text : List Char) :
    ∃ tokens finish blanks rest, Laid position text tokens finish (blanks ++ rest) ∧
      blanks.all Text.isBlank = true ∧
      (rest = [] ∨ ∃ e, Blocked (finish + byteSize blanks) rest e) := by
  -- A token takes characters away, so the induction is on how many there are.
  induction hn : text.length using Nat.strongRecOn generalizing position text with
  | ind n ih =>
      have hsplit := List.takeWhile_append_dropWhile (p := Text.isBlank) (l := text)
      have hblanks : (text.takeWhile Text.isBlank).all Text.isBlank = true := List.all_takeWhile
      have hhead := List.head?_dropWhile_not Text.isBlank text
      generalize text.takeWhile Text.isBlank = blanks at hsplit hblanks
      generalize text.dropWhile Text.isBlank = rest at hsplit hhead
      subst hsplit
      -- What follows the blanks is the end, or a character that begins a token or blocks.
      cases rest with
      | nil => exact ⟨[], position, blanks, [], .nil _ _, hblanks, .inl rfl⟩
      | cons c rest =>
          have hblank : Text.isBlank c = false := by simpa using hhead
          cases hlexeme : lexeme (position + byteSize blanks) c rest with
          | error e =>
              exact ⟨[], position, blanks, c :: rest, .nil _ _, hblanks,
                .inr ⟨e, lexeme_eq_error_iff.mp hlexeme⟩⟩
          | ok x =>
              rcases x with ⟨token, span, after⟩
              rcases (lexeme_eq_ok_iff hblank).mp hlexeme with ⟨hspells, happend⟩
              have hlt : after.length < n := by
                have hshort := length_rest_lt hlexeme
                rw [List.length_append] at hn
                simp only at hshort
                omega
              rcases ih after.length hlt (position + byteSize blanks + byteSize span) after rfl with
                ⟨tokens, finish, blanks', rest', hlaid, hblanks', hend⟩
              rw [← happend]
              exact ⟨_, finish, blanks', rest', .cons hblanks hspells hlaid, hblanks', hend⟩

theorem scanFrom_of_laid_blanks {position finish : Nat} {text blanks rest : List Char}
    {tokens : List Located} (h : Laid position text tokens finish (blanks ++ rest))
    (hblanks : blanks.all Text.isBlank = true) :
    scanFrom position text =
      (scanFrom (finish + byteSize blanks) rest).map (tokens ++ ·) := by
  rw [scanFrom_of_laid h, scanFrom_blanks hblanks]

theorem scanFrom_of_laid_end {position finish : Nat} {text blanks : List Char}
    {tokens : List Located} (h : Laid position text tokens finish blanks)
    (hblanks : blanks.all Text.isBlank = true) : scanFrom position text = .ok tokens := by
  rw [← List.append_nil blanks] at h
  rw [scanFrom_of_laid_blanks h hblanks, scanFrom_nil, Except.map, List.append_nil]

theorem scanFrom_of_laid_blocked {position finish : Nat} {text blanks rest : List Char}
    {tokens : List Located} {e : SyntaxError}
    (h : Laid position text tokens finish (blanks ++ rest))
    (hblanks : blanks.all Text.isBlank = true)
    (hblocked : Blocked (finish + byteSize blanks) rest e) :
    scanFrom position text = .error e := by
  rw [scanFrom_of_laid_blanks h hblanks, scanFrom_of_blocked hblocked, Except.map]

theorem scanFrom_eq_ok_iff {position : Nat} {text : List Char} {tokens : List Located} :
    scanFrom position text = .ok tokens ↔
      ∃ finish blanks, Laid position text tokens finish blanks ∧
        blanks.all Text.isBlank = true := by
  constructor
  · intro h
    -- Every text is laid out up to its end or up to what blocks it, and what blocks it is an error.
    rcases exists_laid position text with
      ⟨tokens', finish, blanks, rest, hlaid, hblanks, rfl | ⟨e, he⟩⟩
    · rw [List.append_nil] at hlaid
      cases h.symm.trans (scanFrom_of_laid_end hlaid hblanks)
      exact ⟨finish, blanks, hlaid, hblanks⟩
    · cases h.symm.trans (scanFrom_of_laid_blocked hlaid hblanks he)
  · rintro ⟨finish, blanks, hlaid, hblanks⟩
    exact scanFrom_of_laid_end hlaid hblanks

theorem scanFrom_eq_error_iff {position : Nat} {text : List Char} {e : SyntaxError} :
    scanFrom position text = .error e ↔
      ∃ tokens finish blanks rest, Laid position text tokens finish (blanks ++ rest) ∧
        blanks.all Text.isBlank = true ∧ Blocked (finish + byteSize blanks) rest e := by
  constructor
  · intro h
    rcases exists_laid position text with
      ⟨tokens, finish, blanks, rest, hlaid, hblanks, rfl | ⟨e', he⟩⟩
    · -- Laid out to its end, the text would have been read.
      rw [List.append_nil] at hlaid
      cases h.symm.trans (scanFrom_of_laid_end hlaid hblanks)
    · cases h.symm.trans (scanFrom_of_laid_blocked hlaid hblanks he)
      exact ⟨tokens, finish, blanks, rest, hlaid, hblanks, he⟩
  · rintro ⟨tokens, finish, blanks, rest, hlaid, hblanks, he⟩
    exact scanFrom_of_laid_blocked hlaid hblanks he

/-! ## Positions -/

/-- Positions go up, none is below the first one, and each is as far from it as what stands
before. -/
theorem positions_of_laid {position finish : Nat} {text rest : List Char} {tokens : List Located}
    (h : Laid position text tokens finish rest) :
    tokens.Pairwise (fun a b => a.position < b.position) ∧
      ∀ token ∈ tokens, ∃ before after, text = before ++ after ∧
        token.position = position + byteSize before := by
  induction h with
  | nil position rest => exact ⟨.nil, fun _ hmem => absurd hmem List.not_mem_nil⟩
  | @cons position finish blanks span text rest token tokens hblanks hspells hlaid ih =>
      -- A span is not empty, so what comes after it stands further on.
      have hsize : 0 < byteSize span := by
        rcases isBlank_of_spells hspells with ⟨c, cs, rfl, -⟩
        exact byteSize_pos (List.cons_ne_nil c cs)
      rcases ih with ⟨hpairwise, hbefore⟩
      constructor
      · refine List.pairwise_cons.mpr ⟨fun other hmem => ?_, hpairwise⟩
        rcases hbefore other hmem with ⟨before, after, -, hposition⟩
        simp only [hposition]
        omega
      · intro other hmem
        rcases List.mem_cons.mp hmem with rfl | hmem
        · exact ⟨blanks, span ++ text, rfl, rfl⟩
        · rcases hbefore other hmem with ⟨before, after, rfl, hposition⟩
          refine ⟨blanks ++ (span ++ before), after, ?_, ?_⟩
          · simp only [List.append_assoc]
          · rw [hposition, byteSize_append, byteSize_append]
            omega

/-- The size of the start of a text is a position between two of its characters. -/
theorem isValid_byteSize {s : String} {before after : List Char} (h : s.toList = before ++ after) :
    String.Pos.Raw.IsValid s ⟨byteSize before⟩ := by
  rw [String.Pos.Raw.isValid_iff_exists_append]
  refine ⟨.ofList before, .ofList after, ?_, ?_⟩
  · rw [← String.ofList_append, ← h, String.ofList_toList]
  · rw [String.rawEndPos, utf8ByteSize_ofList]

/-- A text is scanned if and only if it is laid out as the tokens, each after blanks and spelled
from its position on, with blanks at its end; the positions go up, and are between characters of the
text. It is not scanned if and only if, after tokens that are laid out and blanks, it is blocked,
and that is what is reported. -/
theorem scan_layout (s : String) :
    (∀ tokens, scan s = .ok tokens ↔ ∃ finish blanks,
      Laid 0 s.toList tokens finish blanks ∧ blanks.all Text.isBlank = true) ∧
    (∀ tokens, scan s = .ok tokens →
      tokens.Pairwise (fun a b => a.position < b.position) ∧
        ∀ token ∈ tokens, String.Pos.Raw.IsValid s ⟨token.position⟩) ∧
    (∀ e, scan s = .error e ↔ ∃ tokens finish blanks rest,
      Laid 0 s.toList tokens finish (blanks ++ rest) ∧ blanks.all Text.isBlank = true ∧
        Blocked (finish + byteSize blanks) rest e) := by
  refine ⟨fun tokens => scanFrom_eq_ok_iff, fun tokens h => ?_, fun e => scanFrom_eq_error_iff⟩
  rcases scanFrom_eq_ok_iff.mp h with ⟨finish, blanks, hlaid, -⟩
  -- A position counts the bytes in front of the token, so it lies between two characters.
  rcases positions_of_laid hlaid with ⟨hpairwise, hbefore⟩
  refine ⟨hpairwise, fun token hmem => ?_⟩
  rcases hbefore token hmem with ⟨before, after, hsplit, hposition⟩
  rw [hposition, Nat.zero_add]
  exact isValid_byteSize hsplit

/-- Tokens without blanks between them, one of which is longer in bytes than in characters, and a
text that is blocked behind such tokens. -/
theorem scan_layout_adjacent :
    let s : String := "é>='ü'LIKE"
    let tokens : List Located :=
      [⟨.bare "é", 0⟩, ⟨.comparison .greaterEqual, 2⟩, ⟨.quoted "ü", 4⟩, ⟨.comparison .like, 8⟩]
    scan s = .ok tokens ∧
      (∃ finish blanks, Laid 0 s.toList tokens finish blanks ∧ blanks.all Text.isBlank = true) ∧
      tokens.Pairwise (fun a b => a.position < b.position) ∧
      (∀ token ∈ tokens, String.Pos.Raw.IsValid s ⟨token.position⟩) ∧
      scan "é!é" = .error (.unexpectedToken "!") ∧
      ∃ tokens finish blanks rest,
        Laid 0 "é!é".toList tokens finish (blanks ++ rest) ∧ blanks.all Text.isBlank = true ∧
          Blocked (finish + byteSize blanks) rest (.unexpectedToken "!") := by
  intro s tokens
  have hscan : scan s = .ok tokens := by decide +kernel
  have hblocked : scan "é!é" = .error (.unexpectedToken "!") := by decide +kernel
  have hpositions := (scan_layout s).2.1 tokens hscan
  exact ⟨hscan, ((scan_layout s).1 tokens).mp hscan, hpositions.1, hpositions.2, hblocked,
    ((scan_layout "é!é").2.2 _).mp hblocked⟩

end Token

end GridQuery
