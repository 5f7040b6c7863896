import GridQuery.Proofs.ChainGrammar

/-!
# Errors at the First Wrong Token

Where reading a condition stops, if it does not come to the end.

A row of tokens is viable if some tokens after it make a sentence of the grammar. The reader reports
the first token with which the row stops being viable, and the end of the row only if the whole row
is viable and is no sentence. So everything before the reported token could still have been
completed, and nothing after it could have saved the text.

The grammar is a chain, so what may come next depends on one thing: the place in the comparison that
the reader is at. There are four places, each is left by the tokens of one kind, and each can be
completed. `Place.walk?` goes through a row of tokens from place to place, and stops at the first
token that does not leave its place. It is compared with the reader once, by the error that each of
them has. The sentences are then the walks that end between two comparisons, and the viable rows
those that end anywhere.

## Main definitions

* `IsSentence`, `IsViable`: The sentences of the grammar, and what they begin with.
* `Place`, `Place.next?`, `Place.walk?`: What a token has to be, and the way of a row of tokens.
* `Place.complaint?`: The error of a row of tokens from a place on.

## Theorems

* `Place.complaint?_eq_some_iff`: The error is that of the token that stops the walk, or of its end.
* `Condition.errorOf?_ofTokens`: The reader has the same errors.
* `isSentence_iff`, `isViable_iff`: Sentences and viable rows as walks.
* `Condition.ofTokens_eq_error_iff`: Which token is reported.
* `Condition.parse_eq_error_iff`: The same for texts.
-/

namespace GridQuery

/-- The tokens are an expression. -/
def IsSentence (tokens : List Token) : Prop :=
  ∃ first links, IsExpression tokens first links

/-- Some tokens after them make the tokens an expression. -/
def IsViable (tokens : List Token) : Prop :=
  ∃ more, IsSentence (tokens ++ more)

/-- What the next token is to the comparison that it stands in, or between two comparisons. -/
inductive Place
  | column
  | operator
  | value
  | joint
  deriving DecidableEq

namespace Place

/-- The place after a token, if the token is what the place asks for. -/
def next? : Place → Token → Option Place
  | .column, token => token.operand?.map fun _ => .operator
  | .operator, token => token.operator?.map fun _ => .value
  | .value, token => token.operand?.map fun _ => .joint
  | .joint, token => token.conjunction?.map fun _ => .column

/-- The place after a row of tokens, if each of them is what its place asks for. -/
def walk? (place : Place) (tokens : List Token) : Option Place :=
  tokens.foldlM next? place

/-- What is wrong with a row of tokens from a place on; it may end between two comparisons only. -/
def complaint? : Place → List Token → Option SyntaxError
  | place, [] => if place = .joint then none else some .unexpectedEnd
  | place, token :: tokens =>
    match place.next? token with
    | none => some (.unexpectedToken token.display)
    | some next => next.complaint? tokens

/-- Tokens that lead from a place to the end of a comparison. -/
def completion : Place → List Token
  | .column => [.bare "x", .comparison .equal, .bare "x"]
  | .operator => [.comparison .equal, .bare "x"]
  | .value => [.bare "x"]
  | .joint => []

theorem walk?_nil (place : Place) : place.walk? [] = some place := rfl

theorem walk?_cons (place : Place) (token : Token) (tokens : List Token) :
    place.walk? (token :: tokens) = (place.next? token).bind fun next => next.walk? tokens :=
  List.foldlM_cons

theorem walk?_append (place : Place) (tokens more : List Token) :
    place.walk? (tokens ++ more) = (place.walk? tokens).bind fun next => next.walk? more :=
  List.foldlM_append

theorem walk?_completion (place : Place) : place.walk? place.completion = some .joint := by
  cases place <;> rfl

theorem complaint?_eq_none_iff {place : Place} {tokens : List Token} :
    place.complaint? tokens = none ↔ place.walk? tokens = some .joint := by
  induction tokens generalizing place with
  | nil =>
      rw [complaint?, walk?_nil, Option.some.injEq]
      split
      · next h => exact iff_of_true rfl h
      · next h => exact iff_of_false nofun h
  | cons token tokens ih =>
      rw [complaint?, walk?_cons]
      cases place.next? token with
      | none => exact iff_of_false nofun nofun
      | some next => exact ih

/-- The token that is complained of is the one that stops the walk. -/
theorem complaint?_eq_some_iff {place : Place} {tokens : List Token} {e : SyntaxError} :
    place.complaint? tokens = some e ↔
      (∃ before token after stop, tokens = before ++ token :: after ∧
        place.walk? before = some stop ∧ stop.next? token = none ∧
        e = .unexpectedToken token.display) ∨
      ∃ stop, place.walk? tokens = some stop ∧ stop ≠ .joint ∧ e = .unexpectedEnd := by
  induction tokens generalizing place with
  | nil =>
      -- Nothing is left to be refused, so the only complaint is that the end comes too early.
      rw [complaint?, walk?_nil]
      constructor
      · intro h
        split at h
        · exact nomatch h
        · next hplace => exact .inr ⟨place, rfl, hplace, (Option.some.inj h).symm⟩
      · rintro (⟨before, token, after, -, hnil, -⟩ | ⟨stop, hstop, hplace, rfl⟩)
        · exact absurd hnil (by simp only [List.nil_eq, List.append_eq_nil_iff, reduceCtorEq,
            and_false, not_false_eq_true])
        · cases hstop
          rw [if_neg hplace]
  | cons token tokens ih =>
      rw [complaint?, walk?_cons]
      -- One step of the walk: the token is refused where it stands, or the complaint is about the
      -- rest.
      cases hnext : place.next? token with
      | none =>
          constructor
          · intro h
            exact .inl ⟨[], token, tokens, place, rfl, walk?_nil place, hnext,
              (Option.some.inj h).symm⟩
          · rintro (⟨before, other, after, stop, hsplit, hwalk, hstop, rfl⟩ | ⟨stop, hstop, -⟩)
            · -- The walk does not get past this token, so it is the one that stops it.
              cases before with
              | nil =>
                  cases hsplit
                  rfl
              | cons first before =>
                  cases hsplit
                  rw [walk?_cons, hnext] at hwalk
                  exact nomatch hwalk
            · exact nomatch hstop
      | some next =>
          rw [Option.bind_some]
          -- The end is reached from here if it is reached from the next place, so only the first
          -- half is about the token that was passed.
          refine ih.trans (or_congr_left ?_)
          constructor
          · rintro ⟨before, other, after, stop, rfl, hwalk, hstop, rfl⟩
            refine ⟨token :: before, other, after, stop, rfl, ?_, hstop, rfl⟩
            rw [walk?_cons, hnext]
            exact hwalk
          · rintro ⟨before, other, after, stop, hsplit, hwalk, hstop, rfl⟩
            cases before with
            | nil =>
                cases hsplit
                cases hwalk
                exact nomatch hnext.symm.trans hstop
            | cons first before =>
                cases hsplit
                rw [walk?_cons, hnext] at hwalk
                exact ⟨before, other, after, stop, rfl, hwalk, hstop, rfl⟩

end Place

namespace Condition

/-! ## The errors of the reader -/

/-- A token is taken and the place is left, or what is wrong at the place is wrong here. -/
theorem expect_cases {α : Type} {view : Token → Option α} (place : Place) {next : Place}
    (hplace : place ≠ .joint) (hview : ∀ token, place.next? token = (view token).map fun _ => next)
    (tokens : List Token) :
    (∃ a rest, expect view tokens = .ok (a, rest) ∧
      place.complaint? tokens = next.complaint? rest) ∨
    ∃ e, expect view tokens = .error e ∧ place.complaint? tokens = some e := by
  cases tokens with
  | nil => exact .inr ⟨.unexpectedEnd, rfl, if_neg hplace⟩
  | cons token rest =>
      rw [expect, Place.complaint?, hview token]
      cases view token with
      | none => exact .inr ⟨_, rfl, rfl⟩
      | some a => exact .inl ⟨a, rest, rfl, rfl⟩

theorem takeLeaf_cases (tokens : List Token) :
    (∃ leaf rest, takeLeaf tokens = .ok (leaf, rest) ∧
      Place.column.complaint? tokens = Place.joint.complaint? rest) ∨
    ∃ e, takeLeaf tokens = .error e ∧ Place.column.complaint? tokens = some e := by
  unfold takeLeaf
  -- Each of the three tokens of a leaf is a step of the walk; the first that fails is the
  -- complaint.
  rcases expect_cases .column nofun (fun _ => rfl) tokens with
    ⟨column, rest₁, h₁, hcolumn⟩ | ⟨e, h₁, hcolumn⟩
  · rw [h₁, hcolumn]
    rcases expect_cases .operator nofun (fun _ => rfl) rest₁ with
      ⟨comparison, rest₂, h₂, hoperator⟩ | ⟨e, h₂, hoperator⟩
    · rw [hoperator]
      rcases expect_cases .value nofun (fun _ => rfl) rest₂ with
        ⟨value, rest₃, h₃, hvalue⟩ | ⟨e, h₃, hvalue⟩
      · refine .inl ⟨⟨column, comparison, value⟩, rest₃, ?_, hvalue⟩
        simp only [bind, Except.bind, h₂, h₃]
      · refine .inr ⟨e, ?_, hvalue⟩
        simp only [bind, Except.bind, h₂, h₃]
    · refine .inr ⟨e, ?_, hoperator⟩
      simp only [bind, Except.bind, h₂]
  · refine .inr ⟨e, ?_, hcolumn⟩
    rw [h₁]
    rfl

theorem errorOf?_chain (left : Condition) (tokens : List Token) :
    errorOf? (chain left tokens) = Place.joint.complaint? tokens := by
  -- The reader moves on by a whole comparison, so the induction is on the number of tokens.
  induction hn : tokens.length using Nat.strongRecOn generalizing left tokens with
  | ind n ih =>
      cases tokens with
      | nil =>
          rw [chain_nil]
          rfl
      | cons token tail =>
          rw [chain, Place.complaint?, Place.next?]
          cases token.conjunction? with
          | none => rfl
          | some joint =>
              rcases takeLeaf_cases tail with ⟨leaf, rest, hleaf, hcolumn⟩ | ⟨e, hleaf, hcolumn⟩
              · have hlt : rest.length < n := by
                  have := length_of_takeLeaf hleaf
                  rw [List.length_cons] at hn
                  omega
                simp only [Option.map_some, hcolumn]
                rw [← ih rest.length hlt (left.link (joint, leaf)) rest rfl]
                split
                · next e herror => cases herror.symm.trans hleaf
                · next leaf' rest' hleaf' =>
                    cases hleaf'.symm.trans hleaf
                    rfl
              · simp only [Option.map_some, hcolumn]
                split
                · next e' herror =>
                    cases herror.symm.trans hleaf
                    rfl
                · next leaf rest hleaf' => cases hleaf'.symm.trans hleaf

/-- The reader complains of a row of tokens as the walk does. -/
theorem errorOf?_ofTokens (tokens : List Token) :
    errorOf? (ofTokens tokens) = Place.column.complaint? tokens := by
  unfold ofTokens
  rcases takeLeaf_cases tokens with ⟨leaf, rest, hleaf, hcolumn⟩ | ⟨e, hleaf, hcolumn⟩
  · rw [hleaf, hcolumn, ← errorOf?_chain (.leaf leaf) rest]
    rfl
  · rw [hleaf, hcolumn]
    rfl

end Condition

/-! ## Sentences and what they begin with -/

theorem isSentence_iff {tokens : List Token} :
    IsSentence tokens ↔ Place.column.walk? tokens = some .joint := by
  -- Both sides say that the reader does not complain.
  rw [← Place.complaint?_eq_none_iff, ← Condition.errorOf?_ofTokens]
  constructor
  · rintro ⟨first, links, h⟩
    rw [Condition.ofTokens_eq_ok_iff.mpr ⟨first, links, h, rfl⟩]
    rfl
  · intro h
    cases hread : Condition.ofTokens tokens with
    | error e =>
        rw [hread] at h
        exact nomatch h
    | ok condition =>
        rcases Condition.ofTokens_eq_ok_iff.mp hread with ⟨first, links, hexpr, -⟩
        exact ⟨first, links, hexpr⟩

/-- Wherever a walk ends, it can be completed. -/
theorem isViable_iff {tokens : List Token} :
    IsViable tokens ↔ ∃ stop, Place.column.walk? tokens = some stop := by
  constructor
  · rintro ⟨more, h⟩
    rw [isSentence_iff, Place.walk?_append, Option.bind_eq_some_iff] at h
    rcases h with ⟨stop, hstop, -⟩
    exact ⟨stop, hstop⟩
  · rintro ⟨stop, hstop⟩
    refine ⟨stop.completion, ?_⟩
    rw [isSentence_iff, Place.walk?_append, hstop]
    exact stop.walk?_completion

/-- A viable row of tokens stops being viable with a token that its place does not ask for. -/
theorem not_isViable_append_iff {before : List Token} {stop : Place} (token : Token)
    (h : Place.column.walk? before = some stop) :
    ¬IsViable (before ++ [token]) ↔ stop.next? token = none := by
  rw [isViable_iff, Place.walk?_append, h, Option.bind_some, Place.walk?_cons, not_exists]
  cases stop.next? token with
  | none => exact iff_of_true nofun rfl
  | some next => exact iff_of_false (fun hnone => hnone next rfl) nofun

namespace Condition

/-- The first token with which a row of tokens stops being viable is reported, and the end of the
row if it is viable and no sentence. -/
theorem ofTokens_eq_error_iff {tokens : List Token} {e : SyntaxError} :
    ofTokens tokens = .error e ↔
      (∃ before token after, tokens = before ++ token :: after ∧ IsViable before ∧
        ¬IsViable (before ++ [token]) ∧ e = .unexpectedToken token.display) ∨
      (∃ more, more ≠ [] ∧ IsSentence (tokens ++ more)) ∧ ¬IsSentence tokens ∧
        e = .unexpectedEnd := by
  rw [← errorOf?_eq_some_iff, errorOf?_ofTokens, Place.complaint?_eq_some_iff]
  -- A token is refused after a viable prefix, or the tokens end before a sentence does.
  refine or_congr ?_ ?_
  · constructor
    · rintro ⟨before, token, after, stop, hsplit, hwalk, hstop, rfl⟩
      exact ⟨before, token, after, hsplit, isViable_iff.mpr ⟨stop, hwalk⟩,
        (not_isViable_append_iff token hwalk).mpr hstop, rfl⟩
    · rintro ⟨before, token, after, hsplit, hviable, hnot, rfl⟩
      rcases isViable_iff.mp hviable with ⟨stop, hwalk⟩
      exact ⟨before, token, after, stop, hsplit, hwalk,
        (not_isViable_append_iff token hwalk).mp hnot, rfl⟩
  · constructor
    · rintro ⟨stop, hwalk, hstop, rfl⟩
      -- The walk stopped short of the place between filters, where a sentence would end.
      have hnot : ¬IsSentence tokens := by
        rw [isSentence_iff, hwalk, Option.some.injEq]
        exact hstop
      rcases isViable_iff.mpr ⟨stop, hwalk⟩ with ⟨more, hmore⟩
      refine ⟨⟨more, ?_, hmore⟩, hnot, rfl⟩
      rintro rfl
      exact hnot (List.append_nil tokens ▸ hmore)
    · rintro ⟨⟨more, -, hmore⟩, hnot, rfl⟩
      rcases isViable_iff.mp ⟨more, hmore⟩ with ⟨stop, hwalk⟩
      refine ⟨stop, hwalk, ?_, rfl⟩
      rintro rfl
      exact hnot (isSentence_iff.mpr hwalk)

/-- A text with something besides blanks, which has tokens, is no condition for one of two reasons.
Either a token is reported, the tokens before it begin a sentence, and together with it they begin
none. Or the end is reported, and the tokens begin a longer sentence and are none themselves. -/
theorem parse_eq_error_iff {s : String} (hne : Text.trim s ≠ "") {located : List Located}
    (hscan : Token.scan (Text.trim s) = .ok located) (e : SyntaxError) :
    parse s = .error e ↔
      (∃ before token after, located.map Located.token = before ++ token :: after ∧
        IsViable before ∧ ¬IsViable (before ++ [token]) ∧
        e = .unexpectedToken token.display) ∨
      (∃ more, more ≠ [] ∧ IsSentence (located.map Located.token ++ more)) ∧
        ¬IsSentence (located.map Located.token) ∧ e = .unexpectedEnd := by
  have hempty : ¬(Text.trim s).isEmpty = true := fun h => hne (String.isEmpty_iff.mp h)
  have hread : parse s = ofTokens (located.map Located.token) := by
    rw [parse, if_neg hempty, hscan]
    rfl
  rw [hread, ofTokens_eq_error_iff]

/-- A token between two comparisons that is no conjunction, and a conjunction at the end. -/
theorem parse_eq_error_iff_trailing :
    let s : String := " a = 'b' c and"
    let t : String := "a like b or"
    let c : Token := .bare "c"
    let tokens : List Token := [.bare "a", .comparison .equal, .quoted "b"]
    let others : List Token := [.bare "a", .comparison .like, .bare "b", .or]
    Text.trim s ≠ "" ∧ Text.trim t ≠ "" ∧
      parse s = .error (.unexpectedToken "c") ∧
      (∃ before token after, tokens ++ [c, .and] = before ++ token :: after ∧ IsViable before ∧
        ¬IsViable (before ++ [token]) ∧ "c" = token.display) ∧
      parse t = .error .unexpectedEnd ∧
      (∃ more, more ≠ [] ∧ IsSentence (others ++ more)) ∧ ¬IsSentence others := by
  intro s t c tokens others
  have hs : Text.trim s ≠ "" := by decide
  have ht : Text.trim t ≠ "" := by decide
  have hscan : Token.scan (Text.trim s) =
      .ok [⟨.bare "a", 0⟩, ⟨.comparison .equal, 2⟩, ⟨.quoted "b", 4⟩, ⟨c, 8⟩, ⟨.and, 10⟩] := by
    decide +kernel
  have hscan' : Token.scan (Text.trim t) =
      .ok [⟨.bare "a", 0⟩, ⟨.comparison .like, 2⟩, ⟨.bare "b", 7⟩, ⟨.or, 9⟩] := by
    decide +kernel
  have hread : parse s = .error (.unexpectedToken "c") := by decide +kernel
  have hread' : parse t = .error .unexpectedEnd := by decide +kernel
  refine ⟨hs, ht, hread, ?_, hread', ?_⟩
  · -- The first text fails by a token and the second by its end; each refutes the other
    -- alternative.
    rcases (parse_eq_error_iff hs hscan _).mp hread with
      ⟨before, token, after, hsplit, hviable, hnot, htoken⟩ | ⟨-, -, hend⟩
    · exact ⟨before, token, after, hsplit, hviable, hnot, SyntaxError.unexpectedToken.inj htoken⟩
    · exact nomatch hend
  · rcases (parse_eq_error_iff ht hscan' _).mp hread' with
      ⟨_, _, _, _, _, _, htoken⟩ | ⟨hmore, hnot, -⟩
    · exact nomatch htoken
    · exact ⟨hmore, hnot⟩

end Condition

end GridQuery
