import GridQuery.Proofs.Sql.Atoms

/-!
# The Identifiers of Query Text

Which names stand in the text of a whole query.

Here the text is cut more coarsely than a condition is: a run of letters, digits and what numerals
are made of, a literal, or any other character by itself. That is enough to see which runs are
identifiers, and it is said of letters of every script, since the names of tables and columns come
from the people who use them. A keyword is a run too, and is told apart by the list of those that
queries are written with.

A piece of text mentions the identifiers that are in it, whatever comes after it. As before that
takes a stop, and pieces that begin with a stop can be put behind any other.

## Main definitions

* `Sql.keywords`, `Sql.isIdentifier`: The keywords, and the texts that are one identifier.
* `Sql.Lexeme`, `Sql.lexemes?`: The parts of a text.
* `Sql.identifiers?`: The identifiers of a text, in order.
* `Sql.Mentions`: The identifiers that a piece of text adds to those of what follows it.
* `Sql.Separates`: What may stand between pieces and is no identifier.

## Theorems

* `mentions_identifier`, `mentions_keyword`, `mentions_numeral`, `mentions_literal`,
  `mentions_signs`: Pieces of one part.
* `mentions_append`, `mentions_parenthesized`, `mentions_intercalate`: Pieces put together.
-/

namespace GridQuery

namespace Sql

/-- A letter of another alphabet, or what else is past ASCII and no blank. -/
def isForeign (c : Char) : Bool := 127 < c.toNat && !Text.isBlank c

/-- A character that an identifier may begin with. -/
def isNameStart (c : Char) : Bool := isWordStart c || isForeign c

/-- A character that an identifier may go on with. -/
def isNameChar (c : Char) : Bool := isWordChar c || isForeign c

/-- A character of an identifier, a keyword or a numeral. -/
def isRunChar (c : Char) : Bool := isNameChar c || Decimal.isStart c

/-- A character that stands by itself. -/
def isSign (c : Char) : Bool := !isRunChar c && c != '\''

/-- The words that queries are written with. -/
def keywords : List String :=
  ["select", "from", "where", "order", "by", "asc", "desc", "limit", "and", "or", "not", "like",
    "in", "has", "all", "none", "of", "is", "exactly", "null", "true", "false"]

/-- The text is one word, and a keyword. -/
def isReserved (cs : List Char) : Bool :=
  isWord cs && keywords.any fun keyword => isKeyword keyword cs

/-- The text is one identifier. -/
def isIdentifier : List Char → Bool
  | [] => false
  | c :: cs => isNameStart c && cs.all isNameChar && !isReserved (c :: cs)

/-- The parts of query text. -/
inductive Lexeme
  | run (text : List Char)
  | literal (text : List Char)
  | sign (c : Char)
  deriving DecidableEq

/-- The identifier that a part of query text is. -/
def Lexeme.identifier? : Lexeme → Option (List Char)
  | .run text => if isIdentifier text then some text else none
  | _ => none

/-- The parts of a text, if every literal of it ends. -/
def lexemes? (cs : List Char) : Option (List Lexeme) :=
  match cs with
  | [] => some []
  | c :: rest =>
    if isRunChar c then
      (lexemes? (rest.dropWhile isRunChar)).map (.run (c :: rest.takeWhile isRunChar) :: ·)
    else if c = '\'' then
      match _h : takeLiteral? rest with
      | none => none
      | some (text, after) => (lexemes? after).map (.literal text :: ·)
    else (lexemes? rest).map (.sign c :: ·)
termination_by cs.length
decreasing_by
  · exact Nat.lt_succ_of_le (List.length_dropWhile_le _ _)
  · exact Nat.lt_succ_of_lt (length_lt_of_takeLiteral? ‹_›)
  · exact Nat.lt_succ_self _

/-- The identifiers of a text, in order. -/
def identifiers? (cs : List Char) : Option (List (List Char)) :=
  (lexemes? cs).map (List.filterMap Lexeme.identifier?)

/-! ## The first part of a text -/

theorem identifiers?_nil : identifiers? [] = some [] := by
  rw [identifiers?, lexemes?]
  rfl

/-- A part in front adds the identifier that it is. -/
theorem identifiers?_of_lexemes? {cs rest : List Char} {l : Lexeme}
    (h : lexemes? cs = (lexemes? rest).map (l :: ·)) :
    identifiers? cs = (identifiers? rest).map (l.identifier?.toList ++ ·) := by
  rw [identifiers?, identifiers?, h, Option.map_map, Option.map_map]
  congr 1
  funext ls
  simp only [Function.comp_apply, List.filterMap_cons]
  cases l.identifier? <;> rfl

theorem identifiers?_sign {c : Char} (hc : isSign c = true) (rest : List Char) :
    identifiers? (c :: rest) = identifiers? rest := by
  rw [isSign, Bool.and_eq_true, Bool.not_eq_true', bne_iff_ne] at hc
  have hsign : lexemes? (c :: rest) = (lexemes? rest).map (.sign c :: ·) := by
    rw [lexemes?, if_neg (by rw [hc.1]; decide), if_neg hc.2]
  rw [identifiers?_of_lexemes? hsign]
  exact Option.map_id'

/-! ## Pieces of text -/

/-- The text adds the identifiers to those of what follows it. -/
def Mentions (cs : List Char) (names : List (List Char)) : Prop :=
  ∀ rest, Stops rest → identifiers? (cs ++ rest) = (identifiers? rest).map (names ++ ·)

theorem mentions_nil : Mentions [] [] := fun _ _ => Option.map_id'.symm

theorem mentions_run {c : Char} {cs : List Char} (hc : isRunChar c = true)
    (hcs : cs.all isRunChar = true) :
    Mentions (c :: cs) (Lexeme.run (c :: cs)).identifier?.toList := by
  intro rest hrest
  -- What stops a piece of text can be in no run, so the run ends there.
  rcases run_append_of_stops hcs (by decide) hrest with ⟨htake, hdrop⟩
  refine identifiers?_of_lexemes? ?_
  rw [List.cons_append, lexemes?, if_pos hc, htake, hdrop]

theorem isRunChar_of_isNameChar {c : Char} (h : isNameChar c = true) : isRunChar c = true := by
  rw [isRunChar, h, Bool.true_or]

theorem isNameChar_of_isWordChar {c : Char} (h : isWordChar c = true) : isNameChar c = true := by
  rw [isNameChar, h, Bool.true_or]

theorem isNameChar_of_isNameStart {c : Char} (h : isNameStart c = true) : isNameChar c = true := by
  simp only [isNameStart, isWordStart, Bool.or_eq_true] at h
  simp only [isNameChar, isWordChar, Char.isAlphanum, Bool.or_eq_true]
  rcases h with (h | h) | h
  · exact .inl (.inl (.inl h))
  · exact .inl (.inr h)
  · exact .inr h

theorem mentions_identifier {cs : List Char} (h : isIdentifier cs = true) : Mentions cs [cs] := by
  cases cs with
  | nil => exact absurd h (by decide)
  | cons c cs =>
      -- The whole run of characters is the name, as none of them ends it.
      have hidentifier : (Lexeme.run (c :: cs)).identifier? = some (c :: cs) := if_pos h
      rw [isIdentifier, Bool.and_eq_true, Bool.and_eq_true] at h
      have hmentions := mentions_run (isRunChar_of_isNameChar (isNameChar_of_isNameStart h.1.1))
        (List.all_eq_true.2 fun d hd => isRunChar_of_isNameChar (List.all_eq_true.1 h.1.2 d hd))
      rwa [hidentifier] at hmentions

theorem mentions_keyword {cs : List Char} (h : isReserved cs = true) : Mentions cs [] := by
  cases cs with
  | nil => exact absurd h (by decide)
  | cons c cs =>
      -- A keyword looks like a name and is told from one by the list of reserved words.
      have hidentifier : (Lexeme.run (c :: cs)).identifier? = none := by
        rw [Lexeme.identifier?, isIdentifier, h, Bool.not_true, Bool.and_false]
        rfl
      rw [isReserved, Bool.and_eq_true, isWord, Bool.and_eq_true] at h
      have hstart : isNameStart c = true := by rw [isNameStart, h.1.1, Bool.true_or]
      have hmentions := mentions_run (isRunChar_of_isNameChar (isNameChar_of_isNameStart hstart))
        (List.all_eq_true.2 fun d hd =>
          isRunChar_of_isNameChar (isNameChar_of_isWordChar (List.all_eq_true.1 h.1.2 d hd)))
      rwa [hidentifier] at hmentions

/-- What a numeral begins with is ASCII, and no letter. -/
theorem isNameStart_eq_false_of_isStart {c : Char} (h : Decimal.isStart c = true) :
    isNameStart c = false := by
  rw [isNameStart, isWordStart_eq_false_of_isStart h, Bool.false_or, isForeign]
  simp only [Decimal.isStart, Bool.or_eq_true, beq_iff_eq, Char.isDigit_iff_toNat] at h
  rcases h with ((hdigit | rfl) | rfl) | rfl
  · -- A digit is below all foreign characters.
    have hnine : '9'.toNat = 57 := rfl
    rw [decide_eq_false (by omega), Bool.false_and]
  · rfl
  · rfl
  · rfl

theorem mentions_numeral {cs : List Char} (h : isNumeral cs = true) : Mentions cs [] := by
  rcases Decimal.exists_cons_of_isSome_read? h with ⟨c, inner, rfl, hstart, hinner⟩
  -- A numeral is a run as well, but no identifier begins as it does.
  have hidentifier : (Lexeme.run (c :: inner)).identifier? = none := by
    rw [Lexeme.identifier?, isIdentifier, isNameStart_eq_false_of_isStart hstart, Bool.false_and,
      Bool.false_and]
    rfl
  have hrun : ∀ d ∈ inner, isRunChar d = true := by
    intro d hd
    have hchar := isNumeralChar_of_isInner (List.all_eq_true.1 hinner d hd)
    rw [isNumeralChar, Bool.or_eq_true] at hchar
    rcases hchar with hword | hdigit
    · exact isRunChar_of_isNameChar (isNameChar_of_isWordChar hword)
    · rw [isRunChar, hdigit, Bool.or_true]
  have hmentions := mentions_run (by rw [isRunChar, hstart, Bool.or_true])
    (List.all_eq_true.2 hrun)
  rwa [hidentifier] at hmentions

theorem mentions_literal (cs : List Char) : Mentions (quoted cs) [] := by
  intro rest hrest
  -- A further quote would make the last one the first of two, and no stop is one.
  have hhead : rest.head? ≠ some '\'' := fun h => absurd (hrest '\'' h) (by decide)
  have htext : quoted cs ++ rest = '\'' :: (doubled cs ++ '\'' :: rest) := by
    rw [quoted, List.append_assoc, List.cons_append, List.singleton_append]
  have hliteral : lexemes? (quoted cs ++ rest) = (lexemes? rest).map (.literal cs :: ·) := by
    rw [htext, lexemes?, if_neg (by decide), if_pos rfl]
    split
    · next hnone =>
        rw [takeLiteral?_doubled cs hhead] at hnone
        exact absurd hnone (by simp only [reduceCtorEq, not_false_eq_true])
    · next text after hsome =>
        rw [takeLiteral?_doubled cs hhead] at hsome
        rcases Prod.mk.inj (Option.some.inj hsome) with ⟨rfl, rfl⟩
        rfl
  exact identifiers?_of_lexemes? hliteral

/-! ## Pieces put together -/

theorem mentions_cons {c : Char} {cs : List Char} {names : List (List Char)}
    (hc : isSign c = true) (h : Mentions cs names) : Mentions (c :: cs) names := by
  intro rest hrest
  rw [List.cons_append, identifiers?_sign hc, h rest hrest]

theorem mentions_signs {cs : List Char} (h : cs.all isSign = true) : Mentions cs [] := by
  induction cs with
  | nil => exact mentions_nil
  | cons c cs ih =>
      rw [List.all_cons, Bool.and_eq_true] at h
      exact mentions_cons h.1 (ih h.2)

theorem stops_append {cs rest : List Char} (h : Stops cs) (hrest : Stops rest) :
    Stops (cs ++ rest) := by
  cases cs with
  | nil => exact hrest
  | cons c cs => exact h

theorem mentions_append {cs ds : List Char} {names others : List (List Char)}
    (hcs : Mentions cs names) (hds : Mentions ds others) (hstops : Stops ds) :
    Mentions (cs ++ ds) (names ++ others) := by
  intro rest hrest
  rw [List.append_assoc, hcs _ (stops_append hstops hrest), hds rest hrest, Option.map_map]
  congr 1
  funext more
  exact (List.append_assoc names others more).symm

theorem mentions_append_blank {cs ds : List Char} {names others : List (List Char)}
    (hcs : Mentions cs names) (hds : Mentions ds others) :
    Mentions (cs ++ ' ' :: ds) (names ++ others) :=
  mentions_append hcs (mentions_cons (by decide) hds) (stops_cons (.inl rfl) ds)

theorem mentions_parenthesized {cs : List Char} {names : List (List Char)}
    (h : Mentions cs names) : Mentions ('(' :: cs ++ [')']) names := by
  have hclosed := mentions_append h (mentions_signs (by decide : [')'].all isSign = true))
    (stops_cons (.inr (.inl rfl)) [])
  rw [List.append_nil] at hclosed
  exact mentions_cons (by decide) hclosed

/-- The text ends what is before it, and adds no identifier to what follows it. -/
structure Separates (sep : List Char) : Prop where
  stops : Stops sep
  mentions : ∀ {cs names}, Mentions cs names → Mentions (sep ++ cs) names
  ne_nil : sep ≠ []

theorem separates_blank : Separates [' '] :=
  ⟨stops_cons (.inl rfl) [], fun h => mentions_cons (by decide) h, List.cons_ne_nil _ _⟩

theorem separates_comma : Separates [',', ' '] :=
  ⟨stops_cons (.inr (.inr rfl)) _,
    fun h => mentions_cons (by decide) (mentions_cons (by decide) h), List.cons_ne_nil _ _⟩

theorem separates_keyword {w : List Char} (h : isReserved w = true) :
    Separates (' ' :: w ++ [' ']) where
  stops := stops_cons (.inl rfl) _
  mentions := by
    intro cs names hcs
    have hword := mentions_cons (c := ' ') (by decide)
      (mentions_append_blank (mentions_keyword h) hcs)
    simpa only [List.cons_append, List.append_assoc, List.singleton_append, List.nil_append]
      using hword
  ne_nil := List.cons_ne_nil _ _

theorem mentions_intercalate {α : Type} {part : α → List Char} {names : α → List (List Char)}
    {sep : List Char} (hsep : Separates sep) {xs : List α}
    (h : ∀ x ∈ xs, Mentions (part x) (names x)) :
    Mentions (sep.intercalate (xs.map part)) (xs.flatMap names) := by
  induction xs with
  | nil => exact mentions_nil
  | cons x xs ih =>
      have hx := h x List.mem_cons_self
      have hxs := ih fun y hy => h y (List.mem_cons_of_mem x hy)
      cases xs with
      | nil =>
          rw [List.map_singleton, List.intercalate_singleton, List.flatMap_singleton]
          exact hx
      | cons y ys =>
          rw [List.map_cons, List.map_cons, List.intercalate_cons_cons, List.append_assoc,
            List.flatMap_cons]
          refine mentions_append hx (hsep.mentions hxs) ?_
          -- The separator is not empty, so whether it stops does not depend on what follows it.
          rcases List.exists_cons_of_ne_nil hsep.ne_nil with ⟨c, more, rfl⟩
          exact hsep.stops

/-- A phrase of keywords, in which a blank stands between every two of them. -/
theorem mentions_phrase {text : List Char}
    (h : (Text.splitOn ' ' text).all isReserved = true) : Mentions text [] := by
  have hkeywords : ∀ w ∈ Text.splitOn ' ' text, Mentions (id w) [] := fun w hw =>
    mentions_keyword (List.all_eq_true.1 h w hw)
  have hwords := mentions_intercalate separates_blank hkeywords
  rwa [List.map_id, Text.intercalate_splitOn, List.flatMap_eq_nil_iff.2 fun _ _ => rfl] at hwords

end Sql

end GridQuery
