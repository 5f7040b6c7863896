import GridQuery.Proofs.Sql.Lexis

/-!
# The Atoms of Query Text

The tokens of a condition, put together to the pieces that stand between its connectives. An atom
begins with the name of a column, and what it asks of the column follows: a comparison, or one of
the forms of a table of keywords. Keywords are read in any case. Only the two connectives cannot be
names of columns, since nothing else stands where a name could.

Grouping goes from left to right and looks at no more than the atom in front of it. So it can be
said of a row of tokens, as of a piece of text before, what it gives wherever it stands; here
without a condition on what follows, because no atom can be made longer by further tokens.

## Main definitions

* `Sql.Value`, `Sql.Atom`: What a column is compared with, and what is asked of it.
* `Sql.Connective`, `Sql.Item`, `Sql.items?`: Atoms, connectives and parentheses, and those of a
  row of tokens.
* `Sql.isPlainName`: The names of columns that need no quoting.
* `Sql.Groups`: The items that a row of tokens gives wherever it stands.
* `Test.tokens`, `Test.atom`: The tokens of a test on a column, and its atom.
* `Test.Legible`: The numerals and the lists of options that can be read.

## Theorems

* `spells_test`: The text of a test gives its tokens.
* `groups_test`: The tokens of a test give its atom.
-/

namespace GridQuery

namespace Sql

/-- What a column is compared with. -/
inductive Value
  | literal (text : List Char)
  | numeral (text : List Char)
  | truth (value : Bool)
  deriving DecidableEq

/-- What is asked of a column in one piece. -/
inductive Atom
  | compare (column : List Char) (relation : Relation) (value : Value)
  | like (column : List Char) (negated : Bool) (pattern : List Char)
  | among (column : List Char) (membership : Membership) (options : List (List Char))
  | null (column : List Char) (negated : Bool)
  deriving DecidableEq

/-- What joins two conditions. -/
inductive Connective
  | and
  | or
  deriving DecidableEq

/-- The pieces of a condition. -/
inductive Item
  | atom (a : Atom)
  | connective (c : Connective)
  | openParen
  | closeParen
  deriving DecidableEq

/-- The word is the keyword, in any case. -/
def isKeyword (keyword : String) (word : List Char) : Bool :=
  word.map Char.toLower == keyword.toList

/-- The connective that a word is. -/
def Connective.ofWord? (word : List Char) : Option Connective :=
  if isKeyword "and" word then some .and
  else if isKeyword "or" word then some .or
  else none

/-- The name is one word, and not a connective. -/
def isPlainName (name : String) : Bool :=
  isWord name.toList && (Connective.ofWord? name.toList).isNone

/-- What may follow the keywords of an atom. -/
inductive Form
  | like (negated : Bool)
  | among (membership : Membership)
  | null (negated : Bool)

/-- The keywords of atoms, and the forms that they announce. -/
def forms : List (List String × Form) :=
  [(["like"], .like false), (["not", "like"], .like true),
    (["in"], .among .anyOf), (["not", "in"], .among .noneOf),
    (["has", "all", "of"], .among .hasAllOf), (["has", "none", "of"], .among .hasNoneOf),
    (["is", "exactly"], .among .exactly),
    (["is", "null"], .null false), (["is", "not", "null"], .null true)]

/-- The value that a token stands for. -/
def Value.ofToken? : Token → Option Value
  | .literal text => some (.literal text)
  | .numeral text => some (.numeral text)
  | .word w =>
    if isKeyword "true" w then some (.truth true)
    else if isKeyword "false" w then some (.truth false)
    else none
  | _ => none

/-- What follows the keywords, if the tokens begin with them. -/
def takeKeywords? : List String → List Token → Option (List Token)
  | [], ts => some ts
  | keyword :: keywords, .word w :: ts =>
    if isKeyword keyword w then takeKeywords? keywords ts else none
  | _ :: _, _ => none

/-- Literals between commas up to a closing parenthesis, and what follows it. -/
def takeOptions? : List Token → Option (List (List Char) × List Token)
  | .literal option :: .closeParen :: rest => some ([option], rest)
  | .literal option :: .comma :: rest =>
    (takeOptions? rest).map fun (options, rest) => (option :: options, rest)
  | _ => none

/-- The atom of a form on a column, and what follows it. -/
def Form.take? (column : List Char) : Form → List Token → Option (Atom × List Token)
  | .like negated, .literal pattern :: rest => some (.like column negated pattern, rest)
  | .among membership, .openParen :: rest =>
    (takeOptions? rest).map fun (options, rest) => (.among column membership options, rest)
  | .null negated, rest => some (.null column negated, rest)
  | _, _ => none

/-- The atom on a column, and what follows it. -/
def takeAtom? (column : List Char) : List Token → Option (Atom × List Token)
  | .relation r :: token :: rest =>
    (Value.ofToken? token).map fun value => (.compare column r value, rest)
  | ts => forms.findSome? fun (keywords, form) =>
    (takeKeywords? keywords ts).bind (form.take? column)

/-- The item that begins with a token, and what follows it. -/
def takeItem? : Token → List Token → Option (Item × List Token)
  | .openParen, rest => some (.openParen, rest)
  | .closeParen, rest => some (.closeParen, rest)
  | .word w, rest =>
    match Connective.ofWord? w with
    | some c => some (.connective c, rest)
    | none => (takeAtom? w rest).map fun (a, rest) => (.atom a, rest)
  | _, _ => none

theorem length_le_of_takeKeywords? {keywords : List String} {ts rest : List Token}
    (h : takeKeywords? keywords ts = some rest) : rest.length ≤ ts.length := by
  induction keywords, ts using takeKeywords?.induct with
  | case1 ts =>
      cases h
      exact Nat.le_refl _
  | case2 keyword keywords w ts hw ih =>
      rw [takeKeywords?, if_pos hw] at h
      exact Nat.le_succ_of_le (ih h)
  -- Another word stands there, or no word at all.
  | case3 keyword keywords w ts hw =>
      rw [takeKeywords?, if_neg hw] at h
      exact absurd h (by simp only [reduceCtorEq, not_false_eq_true])
  | case4 keyword keywords ts hword =>
      rw [takeKeywords?] at h
      · exact absurd h (by simp only [reduceCtorEq, not_false_eq_true])
      · exact hword

theorem length_le_of_takeOptions? {ts rest : List Token} {options : List (List Char)}
    (h : takeOptions? ts = some (options, rest)) : rest.length ≤ ts.length := by
  induction ts using takeOptions?.induct generalizing options with
  | case1 option rest' =>
      cases h
      simp only [List.length_cons]
      omega
  | case2 option rest' ih =>
      rw [takeOptions?] at h
      rcases Option.map_eq_some_iff.1 h with ⟨⟨options', rest''⟩, htake, heq⟩
      cases heq
      have hle := ih htake
      simp only [List.length_cons]
      omega
  | case3 ts hlast hmore =>
      rw [takeOptions?] at h
      · exact absurd h (by simp only [reduceCtorEq, not_false_eq_true])
      · exact hlast
      · exact hmore

theorem length_le_of_take? {column : List Char} {form : Form} {ts rest : List Token} {a : Atom}
    (h : form.take? column ts = some (a, rest)) : rest.length ≤ ts.length := by
  unfold Form.take? at h
  split at h
  · cases h
    exact Nat.le_succ _
  · rcases Option.map_eq_some_iff.1 h with ⟨⟨options, rest'⟩, htake, heq⟩
    cases heq
    exact Nat.le_succ_of_le (length_le_of_takeOptions? htake)
  · cases h
    exact Nat.le_refl _
  · exact absurd h (by simp only [reduceCtorEq, not_false_eq_true])

theorem length_le_of_takeAtom? {column : List Char} {ts rest : List Token} {a : Atom}
    (h : takeAtom? column ts = some (a, rest)) : rest.length ≤ ts.length := by
  unfold takeAtom? at h
  split at h
  · rcases Option.map_eq_some_iff.1 h with ⟨value, -, heq⟩
    cases heq
    simp only [List.length_cons]
    omega
  · -- The keywords of one form are taken first, and then what the form has behind them.
    rcases List.exists_of_findSome?_eq_some h with ⟨⟨keywords, form⟩, -, htake⟩
    rcases Option.bind_eq_some_iff.1 htake with ⟨ts', hkeywords, hform⟩
    exact Nat.le_trans (length_le_of_take? hform) (length_le_of_takeKeywords? hkeywords)

theorem length_le_of_takeItem? {token : Token} {ts rest : List Token} {item : Item}
    (h : takeItem? token ts = some (item, rest)) : rest.length ≤ ts.length := by
  unfold takeItem? at h
  split at h
  · cases h
    exact Nat.le_refl _
  · cases h
    exact Nat.le_refl _
  · -- A word is a connective, or it is the column that an atom begins with.
    split at h
    · cases h
      exact Nat.le_refl _
    · rcases Option.map_eq_some_iff.1 h with ⟨⟨a, rest'⟩, htake, heq⟩
      cases heq
      exact length_le_of_takeAtom? htake
  · exact absurd h (by simp only [reduceCtorEq, not_false_eq_true])

/-- The items of a row of tokens. -/
def items? (ts : List Token) : Option (List Item) :=
  match ts with
  | [] => some []
  | token :: ts =>
    match _h : takeItem? token ts with
    | none => none
    | some (item, rest) => (items? rest).map (item :: ·)
termination_by ts.length
decreasing_by exact Nat.lt_succ_of_le (length_le_of_takeItem? ‹_›)

/-! ## Rows of tokens put together -/

/-- The tokens give the items, whatever follows them. -/
def Groups (ts : List Token) (items : List Item) : Prop :=
  ∀ rest, items? (ts ++ rest) = (items? rest).map (items ++ ·)

theorem items?_nil : items? [] = some [] := by
  rw [items?]

theorem items?_of_takeItem? {token : Token} {ts rest : List Token} {item : Item}
    (h : takeItem? token ts = some (item, rest)) :
    items? (token :: ts) = (items? rest).map (item :: ·) := by
  rw [items?]
  split
  · next hnone => exact absurd (hnone.symm.trans h) (by simp only [reduceCtorEq, not_false_eq_true])
  · next item' rest' hsome =>
      rcases Prod.mk.inj (Option.some.inj (hsome.symm.trans h)) with ⟨rfl, rfl⟩
      rfl

theorem groups_of_takeItem? {token : Token} {ts : List Token} {item : Item}
    (h : ∀ rest, takeItem? token (ts ++ rest) = some (item, rest)) :
    Groups (token :: ts) [item] := by
  intro rest
  rw [List.cons_append, items?_of_takeItem? (h rest)]
  rfl

theorem groups_openParen : Groups [.openParen] [.openParen] :=
  groups_of_takeItem? fun _ => rfl

theorem groups_closeParen : Groups [.closeParen] [.closeParen] :=
  groups_of_takeItem? fun _ => rfl

theorem groups_connective {w : List Char} {c : Connective} (h : Connective.ofWord? w = some c) :
    Groups [.word w] [.connective c] := by
  refine groups_of_takeItem? ?_
  intro rest
  rw [List.nil_append, takeItem?, h]

theorem groups_append {ts us : List Token} {items others : List Item} (hts : Groups ts items)
    (hus : Groups us others) : Groups (ts ++ us) (items ++ others) := by
  intro rest
  rw [List.append_assoc, hts, hus, Option.map_map]
  congr 1
  funext more
  exact (List.append_assoc items others more).symm

theorem items?_of_groups {ts : List Token} {items : List Item} (h : Groups ts items) :
    items? ts = some items := by
  have hall := h []
  rw [List.append_nil, items?_nil, Option.map_some, List.append_nil] at hall
  exact hall

end Sql

open Sql

/-! ## Tests -/

/-- The token of an operand. -/
def Operand.token : Operand → Sql.Token
  | .text s => .literal s.toList
  | .numeral digits => .numeral digits.toList
  | .truth b => .word (if b then "True" else "False").toList
  | .day d => .literal d.text

/-- The value of an operand. -/
def Operand.value : Operand → Sql.Value
  | .text s => .literal s.toList
  | .numeral digits => .numeral digits.toList
  | .truth b => .truth b
  | .day d => .literal d.text

/-- The pattern of the texts that contain a word. -/
def Sql.pattern (word : String) : List Char :=
  '%' :: word.toList ++ ['%']

/-- What follows the column among the tokens of a test. -/
def Test.tokens : Test → List Sql.Token
  | .compare relation operand => [.relation relation, operand.token]
  | .contains word => phrase "like" ++ [.literal (pattern word)]
  | .lacks word => phrase "not like" ++ [.literal (pattern word)]
  | .among membership options =>
    phrase membership.words ++ (.openParen ::
      [Sql.Token.comma].intercalate (options.map fun o => [.literal o.toList]) ++ [.closeParen])
  | .isNull => phrase "is null"
  | .isNotNull => phrase "is not null"

/-- The atom of a test on a column. -/
def Test.atom (column : String) : Test → Sql.Atom
  | .compare relation operand => .compare column.toList relation operand.value
  | .contains word => .like column.toList false (pattern word)
  | .lacks word => .like column.toList true (pattern word)
  | .among membership options => .among column.toList membership (options.map String.toList)
  | .isNull => .null column.toList false
  | .isNotNull => .null column.toList true

/-- The operand is readable, if it is a numeral. -/
def Operand.Legible : Operand → Prop
  | .numeral digits => isNumeral digits.toList = true
  | _ => True

/-- The operand is readable, and there is an option to choose from. -/
def Test.Legible : Test → Prop
  | .compare _ operand => operand.Legible
  | .among _ options => options ≠ []
  | _ => True

namespace Sql

theorem spells_operand {o : Operand} (h : o.Legible) : Spells o.render [o.token] := by
  cases o with
  | text s => exact spells_literal s.toList
  | numeral digits => exact spells_numeral h
  | truth b => cases b <;> exact spells_word (by decide)
  | day d => exact spells_literal d.text

theorem all_isWord_membership (m : Membership) :
    (Text.splitOn ' ' m.words.toList).all isWord = true := by
  cases m <;> decide

theorem render_among (m : Membership) (options : List String) :
    (Test.among m options).render = m.words.toList ++ ' ' ::
      ('(' :: [',', ' '].intercalate (options.map fun o => quoted o.toList) ++ [')']) := by
  have hopen : " (".toList = [' ', '('] := rfl
  change m.words.toList ++ " (".toList ++ _ ++ [')'] = _
  rw [hopen]
  simp only [List.append_assoc, List.cons_append, List.nil_append]

theorem spells_among (m : Membership) {options : List String} (hne : options ≠ []) :
    Spells (Test.among m options).render (Test.among m options).tokens := by
  rcases List.exists_cons_of_ne_nil hne with ⟨first, others, rfl⟩
  rw [render_among]
  exact spells_append_blank (spells_phrase (all_isWord_membership m))
    (spells_parenthesized (spells_literals first others))

theorem spells_test {t : Test} (h : t.Legible) : Spells t.render t.tokens := by
  cases t with
  -- A sign and an operand, or keywords and what follows them; blanks keep the parts apart.
  | compare relation operand =>
      exact spells_append_blank (spells_relation relation) (spells_operand h)
  | contains word =>
      have hwords : Spells "like".toList (phrase "like") := spells_phrase (by decide)
      exact spells_append_blank hwords (spells_literal (pattern word))
  | lacks word =>
      have hwords : Spells "not like".toList (phrase "not like") := spells_phrase (by decide)
      exact spells_append_blank hwords (spells_literal (pattern word))
  | among membership options =>
      exact spells_among membership h
  | isNull => exact spells_phrase (by decide)
  | isNotNull => exact spells_phrase (by decide)

theorem ofToken?_operand (o : Operand) : Value.ofToken? o.token = some o.value := by
  cases o with
  | text s => rfl
  | numeral digits => rfl
  | truth b => cases b <;> rfl
  | day d => rfl

theorem takeOptions?_literals (first : String) (others : List String) (rest : List Token) :
    takeOptions? ([Token.comma].intercalate ((first :: others).map fun o => [.literal o.toList]) ++
      .closeParen :: rest) = some ((first :: others).map String.toList, rest) := by
  induction others generalizing first with
  | nil => rfl
  | cons next others ih =>
      simp only [List.map_cons, List.intercalate_cons_cons] at ih ⊢
      simp only [List.cons_append, List.nil_append, takeOptions?] at ih ⊢
      rw [ih, Option.map_some]

/-- The first entry of the table whose keywords stand after the column decides. -/
theorem takeAtom?_of_keywords {column w : List Char} {ts rest after : List Token} {a : Atom}
    {keywords : List String} {form : Form} (earlier later : List (List String × Form))
    (hforms : forms = earlier ++ (keywords, form) :: later)
    (hearlier : (earlier.all fun entry => (takeKeywords? entry.1 (.word w :: ts)).isNone) = true)
    (hkeywords : takeKeywords? keywords (.word w :: ts) = some rest)
    (hform : form.take? column rest = some (a, after)) :
    takeAtom? column (.word w :: ts) = some (a, after) := by
  -- No entry before this one has its keywords at this place.
  have hnone : (earlier.findSome? fun (keywords, form) =>
      (takeKeywords? keywords (.word w :: ts)).bind (form.take? column)) = none := by
    rw [List.findSome?_eq_none_iff]
    rintro ⟨words, other⟩ hentry
    have hfail := List.all_eq_true.1 hearlier _ hentry
    rw [Option.isNone_iff_eq_none] at hfail
    simp only [hfail, Option.bind_none]
  rw [takeAtom?]
  · -- The search passes the entries before, whose keywords are others.
    rw [hforms, List.findSome?_append, hnone, Option.none_or, List.findSome?_cons]
    simp only [hkeywords, Option.bind_some, hform]
  · rintro relation token more ⟨⟩

theorem takeAtom?_among {ts rest : List Token} {options : List (List Char)}
    (h : takeOptions? ts = some (options, rest)) (column : List Char) (m : Membership) :
    takeAtom? column (phrase m.words ++ .openParen :: ts) =
      some (.among column m options, rest) := by
  have hform : (Form.among m).take? column (.openParen :: ts) =
      some (.among column m options, rest) := by
    rw [Form.take?, h, Option.map_some]
  -- Each entry before that of the membership asks for another word somewhere.
  cases m
  · exact takeAtom?_of_keywords (forms.take 2) (forms.drop 3) rfl rfl rfl hform
  · exact takeAtom?_of_keywords (forms.take 3) (forms.drop 4) rfl rfl rfl hform
  · exact takeAtom?_of_keywords (forms.take 4) (forms.drop 5) rfl rfl rfl hform
  · exact takeAtom?_of_keywords (forms.take 5) (forms.drop 6) rfl rfl rfl hform
  · exact takeAtom?_of_keywords (forms.take 6) (forms.drop 7) rfl rfl rfl hform

theorem takeAtom?_test {t : Test} (h : t.Legible) (column : String) (rest : List Token) :
    takeAtom? column.toList (t.tokens ++ rest) = some (t.atom column, rest) := by
  cases t with
  | compare relation operand =>
      rw [Test.tokens, List.cons_append, List.singleton_append, takeAtom?, ofToken?_operand]
      rfl
  | contains word => rfl
  | lacks word => rfl
  | among m options =>
      rcases List.exists_cons_of_ne_nil h with ⟨first, others, rfl⟩
      have hlist := takeOptions?_literals first others rest
      -- The keywords are known for each membership, but the options have to be read one by one.
      have hsplit := takeAtom?_among hlist column.toList m
      rw [Test.tokens]
      simp only [List.append_assoc, List.cons_append, List.nil_append] at hsplit ⊢
      exact hsplit
  | isNull => rfl
  | isNotNull => rfl

theorem groups_test {t : Test} (h : t.Legible) {column : String}
    (hcolumn : Connective.ofWord? column.toList = none) :
    Groups (.word column.toList :: t.tokens) [.atom (t.atom column)] := by
  refine groups_of_takeItem? ?_
  intro rest
  rw [takeItem?, hcolumn]
  simp only [takeAtom?_test h column rest, Option.map_some]

end Sql

end GridQuery
