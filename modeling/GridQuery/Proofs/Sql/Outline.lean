import GridQuery.Proofs.NumberText
import GridQuery.Proofs.Sql.Restriction

/-!
# Outlines of Clauses

What a term can change in the text of a clause, and what it cannot.

The tokens of a clause are laid down before its term is seen. An outline has a slot for every token,
and most slots are fixed: the column, the words of the predicate, symbols and parentheses. The
others say of which kind the token is. An outline is chosen by the operator of the column, the
predicate and the number of options, and has no term to look at. `Fills` puts the two together:
tokens fill an outline with what the term supplies, one piece for each open slot, in order and none
left.

So a term cannot become two tokens, or a token of another kind. It can only be said in the one
literal or the one numeral that stands in its place, and what that stands for is the term: a literal
is the text of it after the doubled quotes are read as one, and a numeral is read as its number. A
date is an exception, since it is worked out first, and what stands in the text are the days that
the predicate needs.

## Main definitions

* `Sql.Slot`, `Sql.Piece`, `Sql.Fills`: Outlines, what a term supplies, and tokens with both.
* `Operator.outline`: The outline of a clause.
* `Clause.pieces`: What the term of a clause supplies.
* `Json.Denotes`: A decimal is the number that a term stands for.
* `Sql.Token.Alike`: Tokens that differ in what they say only.
* `Clause.Says`: The tokens of a formula are those of a clause.

## Theorems

* `alike_of_fills`: What fills one outline is alike.
* `spells_fragment`: The tokens of a formula.
* `fills_compared`, `fills_options`, `fills_differences`: The formulas that clauses are made of.
* `Clause.denotes_numeral`: The numeral of a term is read as its number.
* `Clause.says_fragment`: The tokens of a clause fill its outline.
* `Clause.tokens?_criterion`: The same of its text, and of the texts of two clauses.
-/

namespace GridQuery

/-- A decimal is the number that a term stands for: it has the value of an integer, is rounded to a
double, or is what a text says between blanks. -/
def Json.Denotes : Json → Decimal → Prop
  | .number (.int n), d => d.value = n
  | .number (.double x), d => d.toBinary64 = x
  | .string s, d => Decimal.read? (Text.trim s).toList = some d
  | _, _ => False

/-- A term that is a double is a finite one. -/
def Json.FiniteNumber : Json → Prop
  | .number (.double x) => x.isFinite = true
  | _ => True

namespace Sql

/-- The word of a truth value. -/
def truthWord (b : Bool) : Token := .word (if b then "True" else "False").toList

/-- A place in a row of tokens: a token that stands there, or the kind of one that may. -/
inductive Slot
  | fixed (token : Token)
  | literal
  | numeral
  | truth
  deriving DecidableEq

/-- What a term supplies for one slot: a text, a number or a truth value. -/
inductive Piece
  | text (text : List Char)
  | number (term : Json)
  | truth (value : Bool)

/-- The tokens stand in the slots, and say one piece after the other in the open ones. -/
inductive Fills : List Slot → List Piece → List Token → Prop
  | nil : Fills [] [] []
  | fixed {token : Token} {slots : List Slot} {pieces : List Piece} {tokens : List Token} :
    Fills slots pieces tokens → Fills (.fixed token :: slots) pieces (token :: tokens)
  | literal {text : List Char} {slots : List Slot} {pieces : List Piece} {tokens : List Token} :
    Fills slots pieces tokens →
      Fills (.literal :: slots) (.text text :: pieces) (.literal text :: tokens)
  | numeral {digits : List Char} {d : Decimal} {term : Json} {slots : List Slot}
    {pieces : List Piece} {tokens : List Token} :
    Decimal.read? digits = some d → term.Denotes d → Fills slots pieces tokens →
      Fills (.numeral :: slots) (.number term :: pieces) (.numeral digits :: tokens)
  | truth {b : Bool} {slots : List Slot} {pieces : List Piece} {tokens : List Token} :
    Fills slots pieces tokens →
      Fills (.truth :: slots) (.truth b :: pieces) (truthWord b :: tokens)

/-- The tokens are one, or of one kind and differ in what they say. -/
inductive Token.Alike : Token → Token → Prop
  | same (token : Token) : Alike token token
  | literal (text text' : List Char) : Alike (.literal text) (.literal text')
  | numeral (digits digits' : List Char) : Alike (.numeral digits) (.numeral digits')
  | truth (b b' : Bool) : Alike (truthWord b) (truthWord b')

variable {slots others : List Slot} {pieces pieces' : List Piece} {tokens tokens' : List Token}

theorem alike_of_fills (h : Fills slots pieces tokens) (h' : Fills slots pieces' tokens') :
    List.Forall₂ Token.Alike tokens tokens' := by
  induction h generalizing pieces' tokens' with
  | nil =>
      cases h'
      exact .nil
  | fixed _ ih =>
      -- The slots decide the kind of each token, and two fillings of a slot differ in its value
      -- only.
      cases h' with
      | fixed h' => exact .cons (.same _) (ih h')
  | literal _ ih =>
      cases h' with
      | literal h' => exact .cons (.literal _ _) (ih h')
  | numeral _ _ _ ih =>
      cases h' with
      | numeral _ _ h' => exact .cons (.numeral _ _) (ih h')
  | truth _ ih =>
      cases h' with
      | truth h' => exact .cons (.truth _ _) (ih h')

theorem fills_append (h : Fills slots pieces tokens) (h' : Fills others pieces' tokens') :
    Fills (slots ++ others) (pieces ++ pieces') (tokens ++ tokens') := by
  induction h with
  | nil => exact h'
  | fixed _ ih => exact .fixed ih
  | literal _ ih => exact .literal ih
  | numeral hread hdenotes _ ih => exact .numeral hread hdenotes ih
  | truth _ ih => exact .truth ih

theorem fills_fixed (tokens : List Token) : Fills (tokens.map .fixed) [] tokens := by
  induction tokens with
  | nil => exact .nil
  | cons token tokens ih => exact .fixed ih

/-! ## Outlines -/

/-- A column compared with what the term supplies. -/
def compared (column : List Char) (relation : Relation) (slot : Slot) : List Slot :=
  [.fixed (.word column), .fixed (.relation relation), slot]

/-- A column, words, and what follows them. -/
def worded (column : List Char) (words : String) (slots : List Slot) : List Slot :=
  .fixed (.word column) :: (phrase words).map .fixed ++ slots

/-- Two outlines with a word between them. -/
def joined (word : String) (left right : List Slot) : List Slot :=
  left ++ .fixed (.word word.toList) :: right

/-- An outline between parentheses. -/
def enclosed (slots : List Slot) : List Slot :=
  .fixed .openParen :: slots ++ [.fixed .closeParen]

/-- So many literals with a comma between every two of them. -/
def listed (count : Nat) : List Slot :=
  [Slot.fixed .comma].intercalate (List.replicate count [.literal])

theorem fills_joined (word : String) (h : Fills slots pieces tokens)
    (h' : Fills others pieces' tokens') :
    Fills (joined word slots others) (pieces ++ pieces')
      (tokens ++ .word word.toList :: tokens') :=
  fills_append h (.fixed h')

theorem fills_enclosed (h : Fills slots pieces tokens) :
    Fills (enclosed slots) pieces (.openParen :: tokens ++ [.closeParen]) := by
  have hclosed := fills_append h (.fixed .nil : Fills [.fixed .closeParen] [] [.closeParen])
  rw [List.append_nil] at hclosed
  exact .fixed hclosed

theorem fills_listed (options : List String) :
    Fills (listed options.length) (options.map fun o => .text o.toList)
      ([Token.comma].intercalate (options.map fun o => [.literal o.toList])) := by
  induction options with
  | nil => exact .nil
  | cons first options ih =>
      cases options with
      | nil => exact .literal .nil
      | cons second options =>
          -- A comma stands between two options and after none.
          rw [listed, List.length_cons, List.length_cons, List.replicate_succ, List.replicate_succ,
            List.intercalate_cons_cons]
          rw [List.map_cons, List.map_cons, List.map_cons, List.map_cons,
            List.intercalate_cons_cons]
          exact .literal (.fixed ih)

end Sql

open Sql

/-- The outline of a clause on a column with an operator. -/
def Operator.outline (operator : Operator) (column : List Char) (predicate : Predicate)
    (count : Nat) : List Slot :=
  match predicate, operator with
  | .isEmpty, _ => worded column "is null" []
  | .isNotEmpty, _ => worded column "is not null" []
  | .contains, .text => worded column "like" [.literal]
  | .doesNotContain, .text => worded column "not like" [.literal]
  | .is, .date | .isWithin, .date =>
    joined "and" (compared column .greaterOrEqual .literal) (compared column .less .literal)
  | .isNot, .date =>
    joined "and"
      (enclosed (joined "or" (compared column .greaterOrEqual .literal)
        (compared column .lessOrEqual .literal)))
      (worded column "is not null" [])
  | .isAfter, .date => compared column .greater .literal
  | _, .date =>
    joined "and" (compared column predicate.relation .literal) (worded column "is not null" [])
  | .doesNotContain, .creator =>
    [Slot.fixed (.word "and".toList)].intercalate
      (List.replicate count (compared column .notSame .literal))
  | _, .number => compared column predicate.relation .numeral
  | _, .checkbox => compared column .equal .truth
  | .is, _ | .isNot, _ => compared column predicate.relation .literal
  | _, _ => worded column predicate.membership.words (enclosed (listed count))

/-- The days that stand in the text of a clause on a date: those it means, or the next to them. -/
def Predicate.days : Predicate → Window → Except QueryError (List Date)
  | .is, .day d => (d.shift 1).map fun next => [d, next]
  | .isNot, .day d => do
    let next ← d.shift 1
    let previous ← d.shift (-1)
    .ok [next, previous]
  | _, .day d => .ok [d]
  | _, .range first last => .ok [first, last]

/-- Dates as texts. -/
def Sql.datePieces (dates : List Date) : List Piece :=
  dates.map fun d => .text d.text

/-- What the term of a clause supplies, for a column with an operator. -/
def Clause.pieces (c : Clause) (kind : ColumnKind) (today : Date) (operator : Operator) :
    Except QueryError (List Piece) :=
  match c.predicate, operator with
  | .isEmpty, _ | .isNotEmpty, _ => .ok []
  | .contains, .text | .doesNotContain, .text => .ok [.text (pattern c.termText)]
  | _, .date => (c.window today >>= c.predicate.days).map datePieces
  | _, .number => .ok [.number c.term]
  | _, .checkbox => (c.truth kind).map fun b => [.truth b]
  | .is, _ | .isNot, _ => .ok [.text c.termText.toList]
  | _, _ => .ok (c.term.termItems.map fun o => .text o.toList)

/-! ## The tokens of formulas -/

/-- The tokens of a formula on a column. -/
def Fragment.tokens (column : String) : Fragment → List Sql.Token
  | .test t => .word column.toList :: t.tokens
  | .both left right => left.tokens column ++ .word "and".toList :: right.tokens column
  | .either left right =>
    .openParen :: (left.tokens column ++ .word "or".toList :: right.tokens column) ++ [.closeParen]

namespace Sql

/-- Two texts with a word between them. -/
theorem spells_joined (word : String) {left right : List Char} {ts us : List Token}
    (hword : isWord word.toList = true) (hleft : Spells left ts) (hright : Spells right us) :
    Spells (left ++ ' ' :: word.toList ++ ' ' :: right) (ts ++ .word word.toList :: us) := by
  have hall := spells_append_blank (spells_append_blank hleft (spells_word hword)) hright
  rwa [List.append_assoc ts, List.singleton_append] at hall

theorem spells_fragment {f : Fragment} (h : f.Legible) {column : String}
    (hcolumn : isWord column.toList = true) : Spells (f.render column) (f.tokens column) := by
  induction f with
  | test t => exact spells_append_blank (spells_word hcolumn) (spells_test h)
  -- Only an alternative is put in parentheses.
  | both left right ihleft ihright =>
      have hand : " and ".toList = ' ' :: "and".toList ++ [' '] := rfl
      have hspells := spells_joined "and" (by decide) (ihleft h.1) (ihright h.2)
      rw [Fragment.render, hand]
      simp only [List.append_assoc, List.cons_append, List.nil_append] at hspells ⊢
      exact hspells
  | either left right ihleft ihright =>
      have hor : " or ".toList = ' ' :: "or".toList ++ [' '] := rfl
      have hspells := spells_parenthesized
        (spells_joined "or" (by decide) (ihleft h.1) (ihright h.2))
      rw [Fragment.render, Fragment.tokens, hor]
      simp only [List.append_assoc, List.cons_append, List.nil_append] at hspells ⊢
      exact hspells

end Sql

/-! ## Formulas fill outlines -/

section Fragments

variable (column : String)

theorem fills_compared {slot : Slot} {piece : Piece} {o : Operand} (r : Relation)
    (h : Fills [slot] [piece] [o.token]) :
    Fills (compared column.toList r slot) [piece]
      ((Fragment.test (.compare r o)).tokens column) :=
  .fixed (.fixed h)

theorem fills_present :
    Fills (worded column.toList "is not null" []) []
      ((Fragment.test .isNotNull).tokens column) := by
  have hwords := fills_fixed (.word column.toList :: phrase "is not null")
  rw [worded, List.append_nil]
  exact hwords

theorem fills_options (m : Membership) (options : List String) :
    Fills (worded column.toList m.words (enclosed (listed options.length)))
      (options.map fun o => .text o.toList) ((Fragment.test (.among m options)).tokens column) := by
  have hwords := fills_fixed (.word column.toList :: phrase m.words)
  exact fills_append hwords (fills_enclosed (fills_listed options))

/-- Comparisons of a column with one id after the other. -/
theorem fills_differences (first : String) (rest : List String) :
    Fills
      ([Slot.fixed (.word "and".toList)].intercalate
        (List.replicate (first :: rest).length (compared column.toList .notSame .literal)))
      ((first :: rest).map fun o => .text o.toList)
      ((Fragment.conj (.test (.compare .notSame (.text first)))
        (rest.map fun id => .test (.compare .notSame (.text id)))).tokens column) := by
  induction rest generalizing first with
  | nil => exact fills_compared column .notSame (.literal .nil)
  | cons second rest ih =>
      rw [List.length_cons, List.length_cons, List.replicate_succ, List.replicate_succ,
        List.intercalate_cons_cons]
      have hfirst : Fills (compared column.toList .notSame .literal) [.text first.toList]
          ((Fragment.test (.compare .notSame (.text first))).tokens column) :=
        fills_compared column .notSame (.literal .nil)
      exact fills_append (fills_append hfirst (.fixed .nil)) (ih second)

end Fragments

namespace Clause

variable {c : Clause} {column : Column} {today : Date}

/-- The numeral of a term is read as its number. -/
theorem denotes_numeral {kind : ColumnKind} {text : String} (hterm : c.term.FiniteNumber)
    (h : c.numeral kind = .ok text) :
    ∃ d, Decimal.read? text.toList = some d ∧ c.term.Denotes d := by
  have hread := isNumeral_of_numeral h
  rw [isNumeral, Option.isSome_iff_exists] at hread
  unfold numeral at h
  split at h
  · -- A number is written by its shortest text, which reads back as the number.
    next n hn =>
      cases h
      rw [hn] at hterm ⊢
      cases n with
      | int n =>
          rw [Number.text, String.toList_ofList]
          exact Number.read?_signedDigits n
      | double x =>
          rw [Number.text, String.toList_ofList]
          exact Number.read?_doubleText hterm
  · next s hs =>
      simp only at h
      split at h
      · cases h
        rw [hs]
        -- A text stands as it is, and means what is read from it.
        rcases hread with ⟨d, hd⟩
        exact ⟨d, hd, hd⟩
      · exact absurd h (by simp only [reduceCtorEq, not_false_eq_true])
  · exact absurd h (by simp only [reduceCtorEq, not_false_eq_true])

/-- The tokens of a formula fill the outline of a clause with what its term supplies. -/
def Says (c : Clause) (column : Column) (today : Date) (operator : Operator) (f : Fragment) :
    Prop :=
  ∃ pieces, c.pieces column.kind today operator = .ok pieces ∧
    Fills (operator.outline column.name.toList c.predicate c.term.termItems.length) pieces
      (f.tokens column.name)

theorem says_text {f : Fragment} (hp : c.predicate ∈ [.contains, .doesNotContain, .is, .isNot])
    (h : c.operatorFragment column.kind today .text = .ok f) : c.Says column today .text f := by
  unfold operatorFragment at h
  unfold Says pieces Operator.outline
  simp only [List.mem_cons, List.not_mem_nil, or_false] at hp
  rcases hp with hp | hp | hp | hp
  all_goals
    simp only [hp] at h ⊢
    cases h
  · exact ⟨_, rfl, .fixed (.fixed (.literal .nil))⟩
  · exact ⟨_, rfl, .fixed (.fixed (.fixed (.literal .nil)))⟩
  · exact ⟨_, rfl, fills_compared column.name .equal (.literal .nil)⟩
  · exact ⟨_, rfl, fills_compared column.name .notEqual (.literal .nil)⟩

theorem says_number {f : Fragment} (hterm : c.term.FiniteNumber)
    (hp : c.predicate ∈
      [.equal, .notEqual, .greater, .greaterOrEqual, .less, .lessOrEqual])
    (h : c.operatorFragment column.kind today .number = .ok f) :
    c.Says column today .number f := by
  rcases bind_eq_ok_iff.1 h with ⟨digits, hdigits, heq⟩
  rcases denotes_numeral hterm hdigits with ⟨d, hread, hdenotes⟩
  cases heq
  unfold Says pieces Operator.outline
  simp only [List.mem_cons, List.not_mem_nil, or_false] at hp
  rcases hp with hp | hp | hp | hp | hp | hp
  all_goals
    simp only [hp]
    exact ⟨_, rfl, fills_compared column.name _ (.numeral hread hdenotes .nil)⟩

theorem says_singleSelect {f : Fragment}
    (hp : c.predicate ∈ [.isAnyOf, .isNoneOf, .is, .isNot])
    (h : c.operatorFragment column.kind today .singleSelect = .ok f) :
    c.Says column today .singleSelect f := by
  unfold operatorFragment at h
  unfold Says pieces Operator.outline
  simp only [List.mem_cons, List.not_mem_nil, or_false] at hp
  rcases hp with hp | hp | hp | hp
  all_goals simp only [hp] at h ⊢
  · -- A list of options fills a slot for each.
    rcases exists_of_options h with ⟨first, rest, hitems, rfl⟩
    rw [hitems]
    exact ⟨_, rfl, fills_options column.name .anyOf (first :: rest)⟩
  · rcases exists_of_options h with ⟨first, rest, hitems, rfl⟩
    rw [hitems]
    exact ⟨_, rfl, fills_options column.name .noneOf (first :: rest)⟩
  · cases h
    exact ⟨_, rfl, fills_compared column.name .equal (.literal .nil)⟩
  · cases h
    exact ⟨_, rfl, fills_compared column.name .notEqual (.literal .nil)⟩

theorem says_multipleSelect {f : Fragment}
    (hp : c.predicate ∈ [.hasAnyOf, .hasNoneOf, .hasAllOf, .isExactly])
    (h : c.operatorFragment column.kind today .multipleSelect = .ok f) :
    c.Says column today .multipleSelect f := by
  rcases exists_of_options h with ⟨first, rest, hitems, rfl⟩
  unfold Says pieces Operator.outline
  simp only [List.mem_cons, List.not_mem_nil, or_false] at hp
  rcases hp with hp | hp | hp | hp
  all_goals
    simp only [hp, hitems]
    exact ⟨_, rfl, fills_options column.name _ (first :: rest)⟩

theorem says_checkbox {f : Fragment} (hp : c.predicate ∈ [.is])
    (h : c.operatorFragment column.kind today .checkbox = .ok f) :
    c.Says column today .checkbox f := by
  rcases bind_eq_ok_iff.1 h with ⟨b, hb, heq⟩
  cases heq
  unfold Says pieces Operator.outline
  simp only [List.mem_singleton.1 hp, hb]
  exact ⟨_, rfl, fills_compared column.name .equal (.truth .nil)⟩

theorem says_creator {f : Fragment}
    (hp : c.predicate ∈ [.contains, .doesNotContain, .is, .isNot])
    (h : c.operatorFragment column.kind today .creator = .ok f) :
    c.Says column today .creator f := by
  unfold operatorFragment at h
  unfold Says pieces Operator.outline
  simp only [List.mem_cons, List.not_mem_nil, or_false] at hp
  rcases hp with hp | hp | hp | hp
  all_goals simp only [hp] at h ⊢
  · -- To contain creators is to be one of them, and not to contain them is to differ from each.
    rcases exists_of_options h with ⟨first, rest, hitems, rfl⟩
    rw [hitems]
    exact ⟨_, rfl, fills_options column.name .anyOf (first :: rest)⟩
  · rcases exists_of_options h with ⟨first, rest, hitems, rfl⟩
    rw [hitems]
    exact ⟨_, rfl, fills_differences column.name first rest⟩
  · cases h
    exact ⟨_, rfl, fills_compared column.name .equal (.literal .nil)⟩
  · cases h
    exact ⟨_, rfl, fills_compared column.name .notEqual (.literal .nil)⟩

/-- The days of a formula, where something else is asked of a date than to be within a range. -/
theorem fills_dayFragment {predicate : Predicate} {d : Date} {f : Fragment}
    (hp : predicate ∈ [.is, .isNot, .isAfter, .isBefore, .isOnOrBefore, .isOnOrAfter])
    (h : dayFragment predicate d = .ok f) (column : String) (count : Nat) :
    ∃ dates, predicate.days (.day d) = .ok dates ∧
      Fills (Operator.date.outline column.toList predicate count) (datePieces dates)
        (f.tokens column) := by
  have hpresent := fills_present column
  simp only [List.mem_cons, List.not_mem_nil, or_false] at hp
  rcases hp with rfl | rfl | rfl | rfl | rfl | rfl
  · -- The day itself begins with its date and ends before the next.
    rcases bind_eq_ok_iff.1 h with ⟨next, hnext, heq⟩
    cases heq
    exact ⟨[d, next], map_eq_ok_iff.2 ⟨next, hnext, rfl⟩,
      fills_joined "and" (fills_compared column _ (.literal .nil))
        (fills_compared column _ (.literal .nil))⟩
  · -- Any other day is after it or before it.
    rcases bind_eq_ok_iff.1 h with ⟨next, hnext, hrest⟩
    rcases bind_eq_ok_iff.1 hrest with ⟨previous, hprevious, heq⟩
    cases heq
    refine ⟨[next, previous],
      bind_eq_ok_iff.2 ⟨next, hnext, bind_eq_ok_iff.2 ⟨previous, hprevious, rfl⟩⟩, ?_⟩
    exact fills_joined "and" (fills_enclosed (fills_joined "or"
      (fills_compared column _ (.literal .nil)) (fills_compared column _ (.literal .nil)))) hpresent
  · cases h
    exact ⟨[d], rfl, fills_compared column _ (.literal .nil)⟩
  -- On one side of the day no other day is needed, and only the value has to be there.
  all_goals
    cases h
    exact ⟨[d], rfl, fills_joined "and" (fills_compared column _ (.literal .nil)) hpresent⟩

theorem pieces_date {kind : ColumnKind} {w : Window} {dates : List Date}
    (hp : c.predicate ∈
      [.is, .isNot, .isAfter, .isBefore, .isOnOrBefore, .isOnOrAfter, .isWithin])
    (hw : c.window today = .ok w) (hdays : c.predicate.days w = .ok dates) :
    c.pieces kind today .date = .ok (datePieces dates) := by
  have hsupply : (c.window today >>= c.predicate.days).map datePieces = .ok (datePieces dates) :=
    map_eq_ok_iff.2 ⟨dates, bind_eq_ok_iff.2 ⟨w, hw, hdays⟩, rfl⟩
  unfold pieces
  simp only [List.mem_cons, List.not_mem_nil, or_false] at hp
  rcases hp with hp | hp | hp | hp | hp | hp | hp
  all_goals
    rw [hp] at hsupply
    simp only [hp, hsupply]

theorem says_date {f : Fragment}
    (hp : c.predicate ∈
      [.is, .isNot, .isAfter, .isBefore, .isOnOrBefore, .isOnOrAfter, .isWithin])
    (h : c.operatorFragment column.kind today .date = .ok f) :
    c.Says column today .date f := by
  rcases dateFragment_cases h with ⟨hwithin, first, last, hw, rfl⟩ | ⟨hwithin, d, hw, hday⟩
  · refine ⟨datePieces [first, last], pieces_date hp hw (by rw [hwithin]; rfl), ?_⟩
    rw [hwithin]
    exact fills_joined "and" (fills_compared _ _ (.literal .nil))
      (fills_compared _ _ (.literal .nil))
  · -- Every predicate but `is_within` takes the dates of a single day.
    have hother : c.predicate ∈
        [.is, .isNot, .isAfter, .isBefore, .isOnOrBefore, .isOnOrAfter] := by
      simp only [List.mem_cons, List.not_mem_nil, or_false, hwithin] at hp ⊢
      exact hp
    rcases fills_dayFragment hother hday column.name c.term.termItems.length with
      ⟨dates, hdays, hfills⟩
    exact ⟨datePieces dates, pieces_date hp hw hdays, hfills⟩

/-- The tokens of a clause fill its outline. -/
theorem says_fragment {operator : Operator} {f : Fragment} (hterm : c.term.FiniteNumber)
    (h : c.fragment column operator today = .ok f) : c.Says column today operator f := by
  rcases fragment_cases h with ⟨hp, rfl⟩ | ⟨hp, rfl⟩ | ⟨hp, hoperator⟩
  · unfold Says pieces Operator.outline
    simp only [hp]
    exact ⟨_, rfl, .fixed (.fixed (.fixed .nil))⟩
  · unfold Says pieces Operator.outline
    simp only [hp]
    exact ⟨_, rfl, fills_present column.name⟩
  · -- Presence is the same for all columns; everything else goes by the operator.
    cases operator with
    | text => exact says_text hp hoperator
    | number => exact says_number hterm hp hoperator
    | singleSelect => exact says_singleSelect hp hoperator
    | multipleSelect => exact says_multipleSelect hp hoperator
    | date => exact says_date hp hoperator
    | checkbox => exact says_checkbox hp hoperator
    | creator => exact says_creator hp hoperator

theorem spells_criterion {k : Criterion} (hname : isWord column.name.toList = true)
    (hterm : c.term.FiniteNumber) (h : c.criterion today column = .ok k) :
    ∃ operator pieces ts, Operator.ofColumn column = .ok operator ∧
      c.pieces column.kind today operator = .ok pieces ∧
      Fills (operator.outline column.name.toList c.predicate c.term.termItems.length) pieces ts ∧
      Spells k.render ts := by
  rcases bind_eq_ok_iff.1 h with ⟨operator, hoperator, hfragment⟩
  rcases bind_eq_ok_iff.1 hfragment with ⟨f, hf, heq⟩
  cases heq
  rcases says_fragment hterm hf with ⟨pieces, hpieces, hfills⟩
  exact ⟨operator, pieces, f.tokens column.name, hoperator, hpieces, hfills,
    spells_fragment (legible_fragment hf) hname⟩

/-- The text of a clause on a column with a plain name is cut into tokens, by itself and wherever it
stands. They fill the outline that the operator, the predicate and the number of options choose,
with what the term supplies and nothing else. So another term gives the same tokens up to what its
literals, numerals and truth values say. -/
theorem tokens?_criterion {k : Criterion} (hname : isWord column.name.toList = true)
    (hterm : c.term.FiniteNumber) (h : c.criterion today column = .ok k) :
    ∃ operator pieces ts, Operator.ofColumn column = .ok operator ∧
      c.pieces column.kind today operator = .ok pieces ∧
      Fills (operator.outline column.name.toList c.predicate c.term.termItems.length) pieces ts ∧
      tokens? k.render = some ts ∧ Spells k.render ts ∧
      ∀ (c' : Clause) (today' : Date) (k' : Criterion), c'.term.FiniteNumber →
        c'.predicate = c.predicate → c'.term.termItems.length = c.term.termItems.length →
        c'.criterion today' column = .ok k' →
        ∃ ts', tokens? k'.render = some ts' ∧ Spells k'.render ts' ∧
          List.Forall₂ Token.Alike ts ts' := by
  rcases spells_criterion hname hterm h with ⟨operator, pieces, ts, hoperator, hpieces, hfills, hts⟩
  refine ⟨operator, pieces, ts, hoperator, hpieces, hfills, tokens?_of_spells hts, hts, ?_⟩
  intro c' today' k' hterm' hpredicate hcount h'
  rcases spells_criterion hname hterm' h' with
    ⟨operator', pieces', ts', hoperator', -, hfills', hts'⟩
  -- The operator is that of the column, and so the outline is the same.
  rw [hoperator, Except.ok.injEq] at hoperator'
  rw [← hoperator', hpredicate, hcount] at hfills'
  exact ⟨ts', tokens?_of_spells hts', hts', alike_of_fills hfills hfills'⟩

/-- A term that would end its literal and go on. -/
theorem tokens?_criterion_quote :
    let column : Column := ⟨"0000", "Name", .text, none⟩
    let today : Date := ⟨2021, 12, 6, by decide⟩
    let c : Clause := .byName "Name" .contains (.string "' or 1 = 1 --")
    let k : Criterion := ⟨"Name", .test (.contains "' or 1 = 1 --")⟩
    isWord column.name.toList = true ∧ c.term.FiniteNumber ∧ c.criterion today column = .ok k ∧
      ∃ ts, tokens? k.render = some ts ∧
        Fills (Operator.text.outline "Name".toList .contains 1)
          [.text "%' or 1 = 1 --%".toList] ts := by
  intro column today c k
  have hname : isWord column.name.toList = true := by decide
  have hterm : c.term.FiniteNumber := trivial
  have hcriterion : c.criterion today column = .ok k := by decide
  have hpattern : pattern c.termText = "%' or 1 = 1 --%".toList := by decide
  rcases tokens?_criterion hname hterm hcriterion with
    ⟨operator, pieces, ts, hoperator, hpieces, hfills, hts, -⟩
  cases hoperator
  cases hpieces
  rw [hpattern] at hfills
  exact ⟨hname, hterm, hcriterion, ts, hts, hfills⟩

/-- The id of a creator stands in its literal as it is, and a date as dates are written. -/
theorem not_mem_tokens?_criterion :
    let today : Date := ⟨2021, 12, 6, by decide⟩
    (∃ k ts, (Clause.byName "Creator" .contains (.string "a@x")).criterion today
        ⟨"c", "Creator", .creator, none⟩ = .ok k ∧ tokens? k.render = some ts ∧
      .literal (pattern "a@x") ∉ ts) ∧
    ∃ k ts, (Clause.byName "Due" .isBefore (.string "2021-1-5")).criterion today
        ⟨"d", "Due", .date, none⟩ = .ok k ∧ tokens? k.render = some ts ∧
      .literal "2021-1-5".toList ∉ ts := by
  intro today
  let creator : Fragment := .test (.among .anyOf ["a@x"])
  let due : Fragment :=
    .both (.test (.compare .less (.day ⟨2021, 1, 5, by decide⟩))) (.test .isNotNull)
  have hcreator : creator.Legible := List.cons_ne_nil _ _
  have hdue : due.Legible := ⟨trivial, trivial⟩
  refine ⟨⟨⟨"Creator", creator⟩, creator.tokens "Creator", by decide,
    tokens?_of_spells (spells_fragment hcreator (by decide)), by decide⟩, ?_⟩
  exact ⟨⟨"Due", due⟩, due.tokens "Due", by decide,
    tokens?_of_spells (spells_fragment hdue (by decide)), by decide⟩

end Clause

end GridQuery
