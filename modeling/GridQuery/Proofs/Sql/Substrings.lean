import GridQuery.Proofs.Sql.Moments
import Mathlib.Data.List.Infix

/-!
# Searching for a Part of a Text

What the formulas of clauses that ask a column of texts to contain a term, or not to, say of a
stored text.

Such a formula is a like pattern: the term between two percent signs. A quote in the term is doubled
for the literal, and the reader of the query undoes that. But the term goes into the pattern as it
is, and the query language has no way to write a sign of patterns that means itself. So a percent
sign in a term stands for any text there too, and an underscore for any character. What is searched
for is a part of the text that is like the term, and the term itself is one such part, since every
pattern is like itself.

The two clauses are one search, and differ in what they want to hear. What they say is asked of
their texts: each has a reading, and every reading of it is true of a stored text where the formula
is.

Hence a term is searched for literally if and only if it has neither sign. If it has one, the text
that is made from it by dropping the percent signs and putting a hyphen for every underscore is
found, and does not contain the term: it is no longer than the term, and has no sign.

## Main definitions

* `Sql.isLike`: Whether a text is like a pattern.
* `Sql.Atom.trueOn`, `Criterion.trueOn`: What is true where a column of texts holds a text.
* `Sql.isLiteral`, `Sql.filled`: Words without signs, and a word with its signs filled in.
* `Clause.searches`: The predicates that search for a term, and the tests that do it.

## Theorems

* `Sql.isLike_append`: A pattern in two pieces cuts the text in two.
* `Sql.isLike_around_iff`: A word between percent signs is looked for anywhere in the text.
* `Sql.isLike_around_literal_iff`: The words that are looked for as they are.
* `Clause.criterion_asking_search`: The formulas of the searches.
* `Clause.contains_iff_isLike_part`: Their texts, and what these say of a stored text.
* `Clause.not_contains_iff_isInfix`: A term with an underscore that is found where it is not.
-/

namespace GridQuery

namespace Sql

/-! ## Patterns -/

/-- Whether a text is like a pattern: a percent sign in the pattern is any text, an underscore any
character, and every other character is itself. -/
def isLike : List Char → List Char → Bool
  | [], text => text.isEmpty
  | p :: pattern, text =>
    if p = '%' then text.tails.any (isLike pattern)
    else (text.head?.any fun c => p = '_' || p = c) && isLike pattern text.tail

/-- The word has none of the signs of patterns. -/
def isLiteral (word : List Char) : Bool :=
  word.all fun c => c ≠ '%' && c ≠ '_'

/-- The word with nothing for every percent sign and a hyphen for every underscore. -/
def filled (word : List Char) : List Char :=
  word.filterMap fun c => if c = '%' then none else if c = '_' then some '-' else some c

variable {pattern word text : List Char}

theorem isLike_nil : isLike [] text = true ↔ text = [] :=
  List.isEmpty_iff

/-- A percent sign is followed anywhere in the text. -/
theorem isLike_percent : isLike ('%' :: pattern) text = true ↔
    ∃ inserted rest, text = inserted ++ rest ∧ isLike pattern rest = true := by
  rw [isLike, if_pos rfl, List.any_eq_true]
  constructor
  · rintro ⟨rest, hrest, hlike⟩
    rcases (List.mem_tails _ _).1 hrest with ⟨inserted, hsplit⟩
    exact ⟨inserted, rest, hsplit.symm, hlike⟩
  · rintro ⟨inserted, rest, rfl, hlike⟩
    exact ⟨rest, (List.mem_tails _ _).2 (List.suffix_append inserted rest), hlike⟩

/-- Every other character takes one character of the text. -/
theorem isLike_cons {p : Char} (h : p ≠ '%') : isLike (p :: pattern) text = true ↔
    ∃ c rest, text = c :: rest ∧ (p = '_' ∨ p = c) ∧ isLike pattern rest = true := by
  rw [isLike, if_neg h]
  cases text with
  | nil => simp
  | cons c rest => simp

/-- A pattern in two pieces cuts the text in two. -/
theorem isLike_append {left right : List Char} : isLike (left ++ right) text = true ↔
    ∃ start rest, text = start ++ rest ∧ isLike left start = true ∧ isLike right rest = true := by
  induction left generalizing text with
  | nil => simp [isLike_nil]
  | cons p left ih =>
      by_cases hp : p = '%'
      · -- What the sign stands for goes to the first piece of the text.
        subst hp
        simp only [List.cons_append, isLike_percent, ih]
        constructor
        · rintro ⟨inserted, _, rfl, start, rest, rfl, hleft, hright⟩
          exact ⟨inserted ++ start, rest, by simp, ⟨inserted, start, rfl, hleft⟩, hright⟩
        · rintro ⟨_, rest, rfl, ⟨inserted, start, rfl, hleft⟩, hright⟩
          exact ⟨inserted, start ++ rest, by simp, start, rest, rfl, hleft, hright⟩
      · -- Any other sign stands for one character, which is the first of its piece.
        simp only [List.cons_append, isLike_cons hp, ih]
        constructor
        · rintro ⟨c, _, rfl, hc, start, rest, rfl, hleft, hright⟩
          exact ⟨c :: start, rest, rfl, ⟨c, start, rfl, hc, hleft⟩, hright⟩
        · rintro ⟨_, rest, rfl, ⟨c, start, rfl, hc, hleft⟩, hright⟩
          exact ⟨c, start ++ rest, rfl, hc, start, rest, rfl, hleft, hright⟩

/-- A word between percent signs is looked for anywhere in the text. -/
theorem isLike_around_iff : isLike ('%' :: word ++ ['%']) text = true ↔
    ∃ part, part <:+: text ∧ isLike word part = true := by
  have hany : ∀ rest, isLike ['%'] rest = true := fun rest =>
    isLike_percent.2 ⟨rest, [], (List.append_nil rest).symm, rfl⟩
  simp only [List.cons_append, isLike_percent, isLike_append, hany, and_true]
  constructor
  · rintro ⟨before, _, rfl, part, after, rfl, hlike⟩
    exact ⟨part, ⟨before, after, List.append_assoc _ _ _⟩, hlike⟩
  · rintro ⟨part, ⟨before, after, rfl⟩, hlike⟩
    exact ⟨before, part ++ after, List.append_assoc _ _ _, part, after, rfl, hlike⟩

/-! ## Words as patterns -/

theorem isLiteral_cons {c : Char} :
    isLiteral (c :: word) = true ↔ (c ≠ '%' ∧ c ≠ '_') ∧ isLiteral word = true := by
  simp [isLiteral]

theorem isLike_self (word : List Char) : isLike word word = true := by
  induction word with
  | nil => rfl
  | cons c word ih =>
      by_cases hc : c = '%'
      · -- The sign stands for itself.
        subst hc
        exact isLike_percent.2 ⟨['%'], word, rfl, ih⟩
      · exact (isLike_cons hc).2 ⟨c, word, rfl, .inr rfl, ih⟩

/-- Without signs a pattern has one text. -/
theorem isLike_literal (h : isLiteral word = true) : isLike word text = true ↔ text = word := by
  induction word generalizing text with
  | nil => exact isLike_nil
  | cons c word ih =>
      rcases isLiteral_cons.1 h with ⟨⟨hpercent, hunderscore⟩, hword⟩
      simp only [isLike_cons hpercent, or_iff_right hunderscore, ih hword]
      constructor
      · rintro ⟨_, _, rfl, rfl, rfl⟩
        rfl
      · rintro rfl
        exact ⟨c, word, rfl, rfl, rfl⟩

theorem isLike_filled (word : List Char) : isLike word (filled word) = true := by
  induction word with
  | nil => rfl
  | cons c word ih =>
      by_cases hpercent : c = '%'
      · subst hpercent
        exact isLike_percent.2 ⟨[], filled word, rfl, ih⟩
      · -- The sign for any characters stands for none, and the one for a single character for a
        -- hyphen.
        by_cases hunderscore : c = '_'
        · subst hunderscore
          exact (isLike_cons hpercent).2 ⟨'-', filled word, rfl, .inl rfl, ih⟩
        · have hfilled : filled (c :: word) = c :: filled word := by
            simp [filled, hpercent, hunderscore]
          rw [hfilled]
          exact (isLike_cons hpercent).2 ⟨c, filled word, rfl, .inr rfl, ih⟩

theorem isLiteral_filled (word : List Char) : isLiteral (filled word) = true := by
  rw [isLiteral, List.all_eq_true]
  intro c hc
  rcases List.mem_filterMap.1 hc with ⟨d, -, hd⟩
  split at hd
  · exact nomatch hd
  · split at hd
    · cases hd
      decide
    · next hpercent hunderscore =>
        cases hd
        simp [hpercent, hunderscore]

/-- The words that are looked for as they are. -/
theorem isLike_around_literal_iff :
    (∀ text, isLike ('%' :: word ++ ['%']) text = true ↔ word <:+: text) ↔
      isLiteral word = true := by
  constructor
  · -- The word would be part of itself filled in, which is not longer, and so it would be that.
    intro h
    have hfound : isLike ('%' :: word ++ ['%']) (filled word) = true :=
      isLike_around_iff.2 ⟨filled word, List.infix_rfl, isLike_filled word⟩
    have hlength : (filled word).length ≤ word.length := List.length_filterMap_le _ _
    have hsame : word = filled word := ((h _).1 hfound).eq_of_length_le hlength
    rw [hsame]
    exact isLiteral_filled word
  · intro h text
    simp only [isLike_around_iff, isLike_literal h, exists_eq_right]

/-! ## Columns of texts -/

/-- What is asked of a column of texts is true where it holds the text, or nothing. A column that
holds nothing is neither like a pattern nor not like it. -/
def Atom.trueOn (value : Option (List Char)) : Atom → Bool
  | .like _ negated pattern => value.any fun text => isLike pattern text != negated
  | .compare _ .equal (.literal word) => value.any fun text => text == word
  | .compare _ .notEqual (.literal word) => value.any fun text => text != word
  | .null _ negated => value.isSome == negated
  | _ => false

end Sql

open Sql

/-- A criterion on a column of texts is true where the column holds the text, or nothing. -/
def Criterion.trueOn (value : Option (List Char)) (k : Criterion) : Bool :=
  k.holds (Sql.Atom.trueOn value)

namespace Clause

variable {column : Column}

/-- The predicates that search for the term of a clause, each with the test that does it. -/
def searches (c : Clause) : List (Predicate × Test) :=
  [(.contains, .contains c.termText), (.doesNotContain, .lacks c.termText)]

/-- A clause that searches a column of texts has a formula with any term. -/
theorem criterion_asking_search (hoperator : Operator.ofColumn column = .ok .text) {c : Clause}
    {search : Predicate × Test} (hsearch : search ∈ c.searches) (today : Date) :
    (c.asking search.1).criterion today column = .ok ⟨column.name, .test search.2⟩ := by
  rw [criterion, hoperator]
  rcases List.mem_pair.1 hsearch with rfl | rfl <;> rfl

/-- On a column of texts both searches for a term have a formula: a test for the term between two
percent signs. Its text can be read, and whatever it is read as is true of a stored text where the
formula is. To contain the term is to have a part that is like it, and not to contain it is to have
none. A text with the term in it contains it. That no other text does holds if and only if the term
has neither of the signs of patterns. -/
theorem contains_iff_isLike_part (hoperator : Operator.ofColumn column = .ok .text) (c : Clause)
    (today : Date) :
    ∃ contains lacks,
      (c.asking .contains).criterion today column = .ok contains ∧
      (c.asking .doesNotContain).criterion today column = .ok lacks ∧
      contains.render = column.name.toList ++ " like ".toList ++
        quoted ('%' :: c.termText.toList ++ ['%']) ∧
      lacks.render = column.name.toList ++ " not like ".toList ++
        quoted ('%' :: c.termText.toList ++ ['%']) ∧
      (isPlainName column.name = true → ∀ k ∈ [contains, lacks], (∃ f, ReadsAs k.render f) ∧
        ∀ f, ReadsAs k.render f → ∀ value, f.eval (Sql.Atom.trueOn value) = k.trueOn value) ∧
      (∀ text : List Char,
        (contains.trueOn (some text) = true ↔
          ∃ part, part <:+: text ∧ isLike c.termText.toList part = true) ∧
        (lacks.trueOn (some text) = true ↔ ¬contains.trueOn (some text) = true) ∧
        (c.termText.toList <:+: text → contains.trueOn (some text) = true)) ∧
      ((∀ text : List Char, contains.trueOn (some text) = true ↔ c.termText.toList <:+: text) ↔
        isLiteral c.termText.toList = true) := by
  have hcontains := criterion_asking_search hoperator (c := c) List.mem_cons_self today
  have hlacks := criterion_asking_search hoperator (c := c)
    (List.mem_cons_of_mem _ List.mem_cons_self) today
  -- Both formulas ask for the same pattern, and they differ in what they want to hear.
  have htrue : ∀ text, Criterion.trueOn (some text) ⟨column.name, .test (.contains c.termText)⟩ =
      isLike ('%' :: c.termText.toList ++ ['%']) text := fun text => Bool.xor_false _
  have hfalse : ∀ text, Criterion.trueOn (some text) ⟨column.name, .test (.lacks c.termText)⟩ =
      !isLike ('%' :: c.termText.toList ++ ['%']) text := fun text => Bool.xor_true _
  -- The word is written between two signs, whatever stands in it.
  refine ⟨_, _, hcontains, hlacks, ?_, ?_, fun hname => ?_, fun text => ?_, ?_⟩
  · exact (List.append_assoc column.name.toList " like ".toList _).symm
  · exact (List.append_assoc column.name.toList " not like ".toList _).symm
  · exact List.forall_mem_cons.2 ⟨readsAs_of_criterion Sql.Atom.trueOn hname hcontains,
      List.forall_mem_singleton.2 (readsAs_of_criterion Sql.Atom.trueOn hname hlacks)⟩
  · rw [htrue, hfalse]
    refine ⟨isLike_around_iff, by simp, fun hinfix => ?_⟩
    exact isLike_around_iff.2 ⟨_, hinfix, isLike_self _⟩
  · simp only [htrue]
    exact isLike_around_literal_iff

/-- The percent sign of the term is any text, so that what is searched for is its start: the text of
the clause can be read, and is true of a text in which the term does not occur. -/
theorem contains_iff_isLike_part_percent :
    let column : Column := ⟨"0000", "Name", .url, none⟩
    let c : Clause := byKey "0000" .is (.string "50%")
    let today : Date := ⟨2021, 12, 6, by decide⟩
    Operator.ofColumn column = .ok .text ∧
      ∃ contains f, (c.asking .contains).criterion today column = .ok contains ∧
        contains.render = "Name like '%50%%'".toList ∧ ReadsAs contains.render f ∧
        f.eval (Sql.Atom.trueOn (some "500 km".toList)) = true ∧
        ¬∀ text, contains.trueOn (some text) = true ↔ c.termText.toList <:+: text := by
  intro column c today
  have hoperator : Operator.ofColumn column = .ok .text := rfl
  rcases contains_iff_isLike_part hoperator c today with
    ⟨contains, lacks, hcriterion, -, hrender, -, hread, htext, hliteral⟩
  rcases hread (by decide) contains List.mem_cons_self with ⟨⟨f, hf⟩, heval⟩
  refine ⟨hoperator, contains, f, hcriterion, hrender.trans (by decide), hf, ?_, ?_⟩
  · rw [heval f hf]
    exact (htext _).1.2 ⟨"50".toList, by decide, by decide⟩
  · rw [hliteral]
    decide

/-- The underscore of the term is any character, so that the term is found where it does not
occur, however the texts of the clauses are read. -/
theorem not_contains_iff_isInfix :
    let column : Column := ⟨"0000", "Name", .text, none⟩
    let c : Clause := byKey "0000" .is (.string "a_b")
    let today : Date := ⟨2021, 12, 6, by decide⟩
    let text : List Char := ['a', 'x', 'b']
    Operator.ofColumn column = .ok .text ∧ ¬c.termText.toList <:+: text ∧
      ∃ contains lacks, (c.asking .contains).criterion today column = .ok contains ∧
        (c.asking .doesNotContain).criterion today column = .ok lacks ∧
        (∃ f, ReadsAs contains.render f) ∧
        (∀ f, ReadsAs contains.render f → f.eval (Sql.Atom.trueOn (some text)) = true) ∧
        (∃ f, ReadsAs lacks.render f) ∧
        ∀ f, ReadsAs lacks.render f → f.eval (Sql.Atom.trueOn (some text)) = false := by
  intro column c today text
  have hoperator : Operator.ofColumn column = .ok .text := rfl
  have hname : isPlainName column.name = true := by decide
  have hcontains := criterion_asking_search hoperator (c := c) List.mem_cons_self today
  have hlacks := criterion_asking_search hoperator (c := c)
    (List.mem_cons_of_mem _ List.mem_cons_self) today
  rcases readsAs_of_criterion Sql.Atom.trueOn hname hcontains with ⟨hexists, hall⟩
  rcases readsAs_of_criterion Sql.Atom.trueOn hname hlacks with ⟨hexists', hall'⟩
  exact ⟨hoperator, by decide, _, _, hcontains, hlacks, hexists,
    fun f hf => (hall f hf _).trans (by decide), hexists',
    fun f hf => (hall' f hf _).trans (by decide)⟩

end Clause

end GridQuery
