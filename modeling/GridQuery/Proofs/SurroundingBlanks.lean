import GridQuery.Proofs.FirstErrors
import GridQuery.Proofs.JoinedTexts
import GridQuery.Proofs.ViablePrefixes
import GridQuery.Table.Selection

/-!
# Blanks Around a Condition

What the blanks around a condition text change.

A condition is read without the blanks around it, so its tokens are those of a shorter text. The
tokens themselves are the same, because a token never reaches into the blanks behind the text, and
the blanks before it only move everything that follows. What they move are positions. A position is
counted from the first character that is no blank, while the text that was given may begin earlier,
and the blanks in front are as many bytes as a position in the one text is short of the position in
the other.

Of all errors of a condition only that of a literal without an end has a position. The position is
that of the opening quote in the text that was given if and only if no blank stands in front. The
filters that read a condition pass the error on as it is.

## Main definitions

* `Token.indent`: The size of the blanks that a text begins with.
* `Located.moved`, `SyntaxError.moved`: Tokens and errors further on in a text.
* `Token.OpensAt`: Where the literal begins that a text does not end.

## Theorems

* `Token.Laid.moved`, `Token.Laid.append`: A layout further on, and one before a blank.
* `Token.scanFrom_add`, `Token.scanFrom_append_blanks`: Scanning after blanks and before them.
* `Token.scan_eq_moved_trim`: Scanning a text with the blanks around it, by scanning it without.
* `Condition.parse_of_scan`: A text that has tokens is read from its own tokens.
* `Token.scan_eq_unterminated_iff`: Scanning reports where the literal begins.
* `Condition.failsOnly_select`: Nothing that is wrong with a row is an error of the text.
* `Condition.opensAt_of_unterminated`: Reading reports a position that is short by the indent.
-/

namespace GridQuery

/-- The token so many bytes further on. -/
def Located.moved (n : Nat) (token : Located) : Located :=
  { token with position := n + token.position }

/-- The error so many bytes further on, if it has a position. -/
def SyntaxError.moved (n : Nat) : SyntaxError → SyntaxError
  | .unterminatedString position => .unterminatedString (n + position)
  | e => e

theorem Located.map_token_map_moved (n : Nat) (located : List Located) :
    (located.map (moved n)).map token = located.map token := by
  rw [List.map_map]
  rfl

namespace Token

open Text (BlankLed isBlank)

/-- The size of the blanks that a text begins with. -/
def indent (s : String) : Nat := byteSize (s.toList.takeWhile isBlank)

/-! ## Layouts further on and before blanks -/

theorem Laid.moved {position finish : Nat} {text rest : List Char} {tokens : List Located}
    (h : Laid position text tokens finish rest) (n : Nat) :
    Laid (n + position) text (tokens.map (Located.moved n)) (n + finish) rest := by
  induction h with
  | nil position rest => exact .nil _ _
  | cons hblanks hspells _ ih =>
      rw [← Nat.add_assoc, ← Nat.add_assoc] at ih
      rw [List.map_cons, Located.moved, ← Nat.add_assoc]
      exact .cons hblanks hspells ih

theorem Blocked.moved {position : Nat} {text : List Char} {e : SyntaxError}
    (h : Blocked position text e) (n : Nat) : Blocked (n + position) text (e.moved n) := by
  cases h with
  | mark hhead => exact .mark _ hhead
  | quote hnot => exact .quote _ hnot

theorem Laid.append {position finish : Nat} {text rest : List Char} {tokens : List Located}
    (h : Laid position text tokens finish rest) {more : List Char} (hmore : BlankLed more) :
    Laid position (text ++ more) tokens finish (rest ++ more) := by
  induction h with
  | nil position rest => exact .nil _ _
  | cons hblanks hspells _ ih =>
      rw [List.append_assoc, List.append_assoc]
      exact .cons hblanks (hspells.append hmore) ih

/-- Blanks neither make an operator of an exclamation mark nor end a literal. -/
theorem Blocked.append {position : Nat} {text : List Char} {e : SyntaxError}
    (h : Blocked position text e) {blanks : List Char} (hblanks : blanks.all isBlank = true) :
    Blocked position (text ++ blanks) e := by
  -- What blocks is a sign that has no partner, and no blank is one.
  have hno : ∀ c, isBlank c = false → c ∉ blanks := fun c hc hmem =>
    Bool.false_ne_true (hc.symm.trans (List.all_eq_true.mp hblanks c hmem))
  cases h with
  | @mark rest hhead =>
      refine .mark position ?_
      cases rest with
      | nil => exact fun heq => hno '=' (by decide) (List.mem_of_mem_head? heq)
      | cons c rest => exact hhead
  | quote hnot =>
      refine .quote position fun hmem => ?_
      rcases List.mem_append.mp hmem with hmem | hmem
      · exact hnot hmem
      · exact hno '\'' (by decide) hmem

/-! ## Scanning after blanks and before them -/

/-- Where a text stands only changes the positions. -/
theorem scanFrom_add (n position : Nat) (text : List Char) :
    scanFrom (n + position) text =
      ((scanFrom position text).map (List.map (Located.moved n))).mapError
        (SyntaxError.moved n) := by
  rcases exists_laid position text with
    ⟨tokens, finish, blanks, rest, hlaid, hblanks, rfl | ⟨e, he⟩⟩
  · -- The layout moves as a whole, whether it reaches the end or is blocked.
    rw [List.append_nil] at hlaid
    rw [scanFrom_of_laid_end hlaid hblanks, scanFrom_of_laid_end (hlaid.moved n) hblanks]
    rfl
  · have hmoved := he.moved n
    rw [← Nat.add_assoc] at hmoved
    rw [scanFrom_of_laid_blocked hlaid hblanks he,
      scanFrom_of_laid_blocked (hlaid.moved n) hblanks hmoved]
    rfl

theorem scanFrom_append_blanks (position : Nat) (text : List Char) {blanks : List Char}
    (h : blanks.all isBlank = true) :
    scanFrom position (text ++ blanks) = scanFrom position text := by
  have hled : BlankLed blanks := fun c hc =>
    List.all_eq_true.mp h c (List.mem_of_mem_head? hc)
  rcases exists_laid position text with
    ⟨tokens, finish, between, rest, hlaid, hbetween, rfl | ⟨e, he⟩⟩
  · -- The text was read to its end, and the blanks join those behind the last token.
    have hall : (between ++ blanks).all isBlank = true := by rw [List.all_append, hbetween, h]; rfl
    rw [List.append_nil] at hlaid
    rw [scanFrom_of_laid_end hlaid hbetween, scanFrom_of_laid_end (hlaid.append hled) hall]
  · -- The text was blocked, and it is blocked at the same place.
    have happend := hlaid.append hled
    rw [List.append_assoc] at happend
    rw [scanFrom_of_laid_blocked hlaid hbetween he,
      scanFrom_of_laid_blocked happend hbetween (he.append h)]

/-- A text has the tokens, or the error, that it has without the blanks around it, further on by the
blanks that it begins with. -/
theorem scan_eq_moved_trim (s : String) :
    scan s = ((scan (Text.trim s)).map (List.map (Located.moved (indent s)))).mapError
      (SyntaxError.moved (indent s)) := by
  have hsplit := List.takeWhile_append_dropWhile (p := isBlank) (l := s.toList)
  rcases Text.exists_dropEndWhile isBlank (s.toList.dropWhile isBlank) with ⟨vs, hend, hvs⟩
  have htrim : (Text.trim s).toList = Text.dropEndWhile isBlank (s.toList.dropWhile isBlank) :=
    String.toList_ofList
  have hblanks : (s.toList.takeWhile isBlank).all isBlank = true := List.all_takeWhile
  have hlead : scan s = scanFrom (indent s) (s.toList.dropWhile isBlank) := by
    rw [scan, indent, ← Nat.zero_add (byteSize _), ← scanFrom_blanks hblanks, hsplit]
  rw [hlead, hend, scanFrom_append_blanks _ _ hvs, scan, htrim, ← scanFrom_add, Nat.add_zero]

theorem scan_trim_of_scan {s : String} {located : List Located} (h : scan s = .ok located) :
    ∃ inner, scan (Text.trim s) = .ok inner ∧
      inner.map Located.token = located.map Located.token := by
  rw [scan_eq_moved_trim] at h
  cases hscan : scan (Text.trim s) with
  | error e =>
      rw [hscan] at h
      exact nomatch h
  | ok inner =>
      rw [hscan] at h
      cases h
      exact ⟨inner, rfl, (Located.map_token_map_moved _ inner).symm⟩

/-! ## Literals without an end -/

/-- What is laid out is what stands before the rest. -/
theorem Laid.exists_eq_append {position finish : Nat} {text rest : List Char}
    {tokens : List Located} (h : Laid position text tokens finish rest) :
    ∃ before, text = before ++ rest ∧ finish = position + byteSize before := by
  induction h with
  | nil position rest => exact ⟨[], rfl, rfl⟩
  | @cons position finish blanks span text rest token tokens _ _ _ ih =>
      rcases ih with ⟨before, rfl, rfl⟩
      refine ⟨blanks ++ (span ++ before), ?_, ?_⟩
      · simp only [List.append_assoc]
      · simp only [byteSize_append, Nat.add_assoc]

/-- At the position in the text stands a quote, no other quote follows it, and what stands before it
is tokens and blanks, so that it opens a literal. -/
def OpensAt (s : String) (position : Nat) : Prop :=
  ∃ before rest, s.toList = before ++ '\'' :: rest ∧ byteSize before = position ∧ '\'' ∉ rest ∧
    ∃ tokens finish blanks, Laid 0 s.toList tokens finish (blanks ++ '\'' :: rest) ∧
      blanks.all isBlank = true

theorem scan_eq_unterminated_iff {s : String} {position : Nat} :
    scan s = .error (.unterminatedString position) ↔ OpensAt s position := by
  rw [scan, scanFrom_eq_error_iff]
  constructor
  · rintro ⟨tokens, finish, blanks, rest, hlaid, hblanks, hblocked⟩
    rcases hlaid.exists_eq_append with ⟨before, hsplit, hfinish⟩
    cases hblocked with
    | quote hnot =>
        refine ⟨before ++ blanks, _, ?_, ?_, hnot, tokens, finish, blanks, hlaid, hblanks⟩
        · rw [hsplit, List.append_assoc]
        · rw [byteSize_append, hfinish, Nat.zero_add]
  · rintro ⟨before, rest, hsplit, rfl, hnot, tokens, finish, blanks, hlaid, hblanks⟩
    refine ⟨tokens, finish, blanks, _, hlaid, hblanks, ?_⟩
    -- The quote is the last one, so that both ways to it pass the same characters.
    rcases hlaid.exists_eq_append with ⟨passed, hpassed, hfinish⟩
    rw [hsplit, ← List.append_assoc] at hpassed
    have hsize : byteSize before = finish + byteSize blanks := by
      rw [List.append_cancel_right hpassed, byteSize_append, hfinish, Nat.zero_add]
    rw [hsize]
    exact .quote _ hnot

end Token

namespace Condition

theorem scan_eq_nil_of_trim {s : String} (h : Text.trim s = "") :
    Token.scan (Text.trim s) = .ok [] := by
  rw [h, Token.scan, String.toList_empty, Token.scanFrom_nil]

/-- The tokens of a text that has any are those that it is read from. -/
theorem parse_of_scan {s : String} {located : List Located} (h : Token.scan s = .ok located)
    (hne : located ≠ []) : parse s = ofTokens (located.map Located.token) := by
  rcases Token.scan_trim_of_scan h with ⟨inner, hinner, htokens⟩
  have hempty : ¬(Text.trim s).isEmpty = true := by
    intro hempty
    have hnil := scan_eq_nil_of_trim (String.isEmpty_iff.mp hempty)
    rw [hinner, Except.ok.injEq] at hnil
    rw [hnil, List.map_nil, eq_comm, List.map_eq_nil_iff] at htokens
    exact hne htokens
  rw [parse, if_neg hempty, hinner, ← htokens]
  rfl

/-- Reading complains of a literal as scanning does, since no row of tokens has such an error. -/
theorem parse_eq_unterminated_iff {s : String} {position : Nat} :
    parse s = .error (.unterminatedString position) ↔
      Token.scan (Text.trim s) = .error (.unterminatedString position) := by
  -- Only the scanner knows of quotes; the grammar reports tokens and the end.
  have hnot : ∀ tokens, ofTokens tokens ≠ .error (.unterminatedString position) := by
    intro tokens h
    rcases ofTokens_eq_error_iff.mp h with ⟨_, _, _, _, _, _, htoken⟩ | ⟨-, -, hend⟩
    · simp only [reduceCtorEq] at htoken
    · simp only [reduceCtorEq] at hend
  rw [parse]
  split
  · next hempty =>
      rw [scan_eq_nil_of_trim (String.isEmpty_iff.mp hempty)]
      simp only [Except.error.injEq, reduceCtorEq]
  · rw [bind_eq_error_iff]
    simp only [hnot, and_false, exists_false, or_false]

end Condition

/-! ## Filters that read a condition -/

/-- The error is not one of the text of a condition. -/
def QueryError.IsOfRows : QueryError → Prop
  | .badSyntax _ => False
  | _ => True

theorem FailsOnly.ne_badSyntax {α : Type} {x : Except QueryError α}
    (h : FailsOnly QueryError.IsOfRows x) (e : SyntaxError) : x ≠ .error (.badSyntax e) :=
  fun hx => h _ hx

theorem Input.failsOnly_coerce (kind : ColumnKind) (s : String) :
    FailsOnly QueryError.IsOfRows (coerce kind s) := by
  unfold coerce
  cases kind <;> dsimp only <;>
    first
    | exact failsOnly_ok _
    | exact failsOnly_ite (failsOnly_ok _) (failsOnly_elim trivial)

namespace Cell

theorem failsOnly_timestamp (kind : ColumnKind) (value : Json) :
    FailsOnly QueryError.IsOfRows (timestamp kind value) := by
  unfold timestamp
  dsimp only
  split
  · exact failsOnly_ok _
  · exact failsOnly_error trivial

theorem failsOnly_number (kind : ColumnKind) (value : Json) :
    FailsOnly QueryError.IsOfRows (number kind value) := by
  unfold number
  split
  · exact failsOnly_ok _
  · split
    · exact failsOnly_ok _
    · exact failsOnly_error trivial
  · exact failsOnly_error trivial

theorem failsOnly_ordered (cell : Cell) : FailsOnly QueryError.IsOfRows cell.ordered := by
  unfold ordered
  refine failsOnly_ite (failsOnly_ok _) ?_
  split
  · exact failsOnly_ok _
  · split
    · exact failsOnly_timestamp _ _
    · exact failsOnly_timestamp _ _
    · exact failsOnly_timestamp _ _
    · exact failsOnly_number _ _

theorem failsOnly_compareText (cell : Cell) (comparison : Comparison) (input : Input) :
    FailsOnly QueryError.IsOfRows (compareText cell comparison input) := by
  unfold compareText
  split
  · split
    · exact failsOnly_ok _
    · exact failsOnly_error trivial
  · exact failsOnly_error trivial
  · exact failsOnly_ok _
  · exact failsOnly_ok _
  · exact failsOnly_ok _

theorem failsOnly_compare (cell : Cell) (comparison : Comparison) (input : Input) :
    FailsOnly QueryError.IsOfRows (compare cell comparison input) := by
  unfold compare
  refine failsOnly_ite (failsOnly_error trivial) ?_
  split
  · exact failsOnly_compareText _ _ _
  · exact failsOnly_ite (failsOnly_error trivial)
      (failsOnly_bind cell.failsOnly_ordered fun _ => failsOnly_ok _)
  · exact failsOnly_ok _
  · exact failsOnly_ok _

end Cell

theorem Leaf.failsOnly_resolve (columns : List Column) (l : Leaf) :
    FailsOnly QueryError.IsOfRows (l.resolve columns) := by
  unfold resolve
  split
  · exact failsOnly_error trivial
  · exact failsOnly_ite (failsOnly_error trivial) (failsOnly_map (Input.failsOnly_coerce _ _))

/-- What can be wrong with the rows is not wrong with the text of the condition. -/
theorem Condition.failsOnly_select {α : Type} {row : α → Row} {columns : List Column}
    (condition : Condition) (entries : List α) :
    FailsOnly QueryError.IsOfRows (select row columns condition entries) := by
  induction condition with
  | leaf l =>
      refine failsOnly_bind (l.failsOnly_resolve columns) fun _ e hkeep => ?_
      rcases keep_eq_error_iff.mp hkeep with ⟨_, _, _, -, -, htest⟩
      exact Cell.failsOnly_compare _ _ _ e htest
  | merge joint left right ihleft ihright =>
      exact failsOnly_bind ihleft fun _ => failsOnly_bind ihright fun _ => failsOnly_ok _

namespace Selection

/-- Making a selection complains of the text as reading it does. -/
theorem make_eq_badSyntax_iff {table s : String} {columns : List Column} {rows : List Row}
    {e : SyntaxError} :
    make table columns rows s = .error (.badSyntax e) ↔
      Text.trim s ≠ "" ∧ Condition.parse s = .error e := by
  rw [make, map_eq_error_iff, matching, ne_eq, ← String.isEmpty_iff]
  split
  · next hempty => exact iff_of_false nofun fun h => h.1 hempty
  · next hempty =>
      rw [and_iff_right hempty]
      cases Condition.parse s with
      | error e' => simp only [Except.error.injEq, QueryError.badSyntax.injEq]
      | ok condition => exact iff_of_false ((Condition.failsOnly_select _ _).ne_badSyntax e) nofun

end Selection

theorem Store.select_eq_badSyntax_iff {store : Store} {table s : String} {e : SyntaxError} :
    store.select table s = .error (.badSyntax e) ↔
      (∃ t, store.table table = .ok t) ∧ Text.trim s ≠ "" ∧ Condition.parse s = .error e := by
  have htable : store.table table ≠ .error (.badSyntax e) := by
    unfold Store.table
    split
    · exact (failsOnly_ok _).ne_badSyntax e
    · exact (failsOnly_error trivial).ne_badSyntax e
  rw [select, bind_eq_error_iff]
  simp only [htable, false_or, Selection.make_eq_badSyntax_iff, exists_and_right]

namespace Condition

theorem trim_ne_empty_of_unterminated {s : String} {position : Nat}
    (h : parse s = .error (.unterminatedString position)) : Text.trim s ≠ "" := by
  intro hempty
  rw [parse, if_pos (String.isEmpty_iff.mpr hempty)] at h
  simp only [Except.error.injEq, reduceCtorEq] at h

theorem indent_eq_zero_iff {s : String} :
    Token.indent s = 0 ↔ ∀ c ∈ s.toList.head?, Text.isBlank c = false := by
  rw [Token.indent]
  cases s.toList with
  | nil => exact iff_of_true rfl fun c hc => nomatch hc
  | cons c cs =>
      rw [List.head?_cons, List.takeWhile_cons]
      cases hc : Text.isBlank c with
      | false =>
          refine iff_of_true rfl fun d hd => ?_
          rw [← Option.some.inj (Option.mem_def.mp hd), hc]
      | true =>
          -- A blank in front takes at least one byte.
          have hsize := Token.byteSize_pos (List.cons_ne_nil c (cs.takeWhile Text.isBlank))
          refine iff_of_false (Nat.ne_of_gt hsize) fun hall => ?_
          exact Bool.false_ne_true ((hall c rfl).symm.trans hc)

/-- A position that is reported is that of the literal without an end, but for the blanks that the
text begins with: the quote that opens it stands so many bytes further on. -/
theorem parse_eq_unterminated_iff_opensAt {s : String} {position : Nat} :
    parse s = .error (.unterminatedString position) ↔
      Token.OpensAt s (Token.indent s + position) := by
  rw [parse_eq_unterminated_iff, ← Token.scan_eq_unterminated_iff, Token.scan_eq_moved_trim s]
  cases Token.scan (Text.trim s) with
  | ok located => exact iff_of_false nofun nofun
  | error e =>
      cases e with
      | unterminatedString p =>
          simp only [Except.map, Except.mapError, SyntaxError.moved, Except.error.injEq,
            SyntaxError.unterminatedString.injEq, Nat.add_left_cancel_iff]
      | emptyCondition | unexpectedToken _ | unexpectedEnd => exact iff_of_false nofun nofun

/-- Where reading reports a literal without an end, it has an end nowhere, and it begins so many
bytes into the text as are reported and as the blanks take that the text begins with. The filters
that read a text report the same, if there is a table to filter. So what they report is where the
literal begins in the text that was given if and only if this does not begin with a blank. -/
theorem opensAt_of_unterminated (s : String) (position : Nat) :
    (parse s = .error (.unterminatedString position) ↔
      Token.OpensAt s (Token.indent s + position)) ∧
    (∀ selection : Selection,
      selection.narrow s = .error (.badSyntax (.unterminatedString position)) ↔
        parse s = .error (.unterminatedString position)) ∧
    (∀ (store : Store) (table : String),
      store.select table s = .error (.badSyntax (.unterminatedString position)) ↔
        (∃ t, store.table table = .ok t) ∧ parse s = .error (.unterminatedString position)) ∧
    (parse s = .error (.unterminatedString position) →
      (Token.OpensAt s position ↔ ∀ c ∈ s.toList.head?, Text.isBlank c = false)) := by
  -- A text of blanks asks for every row and is never parsed, but no quote opens in it either.
  have hblank : Text.trim s ≠ "" ∧ parse s = .error (.unterminatedString position) ↔
      parse s = .error (.unterminatedString position) :=
    and_iff_right_of_imp trim_ne_empty_of_unterminated
  refine ⟨parse_eq_unterminated_iff_opensAt, fun selection => ?_, fun store table => ?_,
    fun h => ?_⟩
  · rw [Selection.narrow, Selection.make_eq_badSyntax_iff, hblank]
  · rw [Store.select_eq_badSyntax_iff, hblank]
  · -- Scanning the text reports one place only.
    have hopens := parse_eq_unterminated_iff_opensAt.mp h
    rw [← Token.scan_eq_unterminated_iff] at hopens
    rw [← indent_eq_zero_iff, ← Token.scan_eq_unterminated_iff, hopens, Except.error.injEq,
      SyntaxError.unterminatedString.injEq]
    omega

/-- Before the literal stand characters of several bytes, blanks among them; without the blanks in
front the position that is reported is right. -/
theorem opensAt_of_unterminated_wide :
    let s : String := "\u00a0 é = 'ü"
    let t : String := "é = 'ü"
    parse s = .error (.unterminatedString 5) ∧ Token.OpensAt s (3 + 5) ∧ ¬Token.OpensAt s 5 ∧
      parse t = .error (.unterminatedString 5) ∧ Token.OpensAt t 5 := by
  intro s t
  have hs : parse s = .error (.unterminatedString 5) := by decide +kernel
  have ht : parse t = .error (.unterminatedString 5) := by decide +kernel
  have hindent : Token.indent s = 3 := by decide +kernel
  have hopens := opensAt_of_unterminated s 5
  rw [hindent] at hopens
  have hshead : s.toList.head? = some '\u00a0' := by decide +kernel
  have hthead : t.toList.head? = some 'é' := by decide +kernel
  refine ⟨hs, hopens.1.mp hs, ?_, ht, ?_⟩
  · rw [hopens.2.2.2 hs, hshead]
    exact fun h => absurd (h '\u00a0' rfl) (by decide)
  · rw [(opensAt_of_unterminated t 5).2.2.2 ht, hthead]
    rintro c ⟨⟩
    decide

/-- A blank in front of the literal, and what is reported is the position of the blank. -/
theorem not_opensAt_of_unterminated :
    let s : String := " 'a"
    parse s = .error (.unterminatedString 0) ∧ ¬Token.OpensAt s 0 ∧
      ∀ before rest, s.toList = before ++ '\'' :: rest → Token.byteSize before ≠ 0 := by
  intro s
  have hno : ∀ before rest, s.toList = before ++ '\'' :: rest → Token.byteSize before ≠ 0 := by
    intro before rest hsplit
    cases before with
    | nil => exact absurd hsplit (by simp [s])
    | cons c before => exact Nat.ne_of_gt (Token.byteSize_pos (List.cons_ne_nil c before))
  refine ⟨by decide +kernel, ?_, hno⟩
  rintro ⟨before, rest, hsplit, hsize, -⟩
  exact hno before rest hsplit hsize

end Condition

end GridQuery
