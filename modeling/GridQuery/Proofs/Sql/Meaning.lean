import GridQuery.Proofs.Sql.Formula
import GridQuery.Sql.Query

/-!
# What Pieces of a Condition Mean

The texts that formulas on columns are written as, read by the grammar. `Renders level text m` says
of a piece of text that it can stand where the grammar has something of that level, and that its
truth is then `m`, a function of the truth of the atoms. The ways in which a query is put together
are each one lemma on `Renders`, and the level is what has to be right in them: rows of operands
may be joined by their own connective, and everything else needs parentheses first.

So a formula of a clause is a row of And: a conjunction in it is one by itself, and a disjunction
has parentheses. That is why it may have neighbours on both sides, under either connective.

## Main definitions

* `Sql.Renders`: A piece of text has a level and a meaning.
* `Sql.Connective.combine`: The truth of many parts under a connective.
* `truthUnder`: What a conjunction of a specification makes of the truth of its parts.
* `Fragment.holds`, `Criterion.holds`, `Junction.holds`: The truth of a formula on a column, and
  of joined parts.
* `Fragment.Legible`, `Criterion.Legible`: What can be read back.

## Theorems

* `renders_joined`, `renders_parenthesized`: Rows of operands, and what parentheses do.
* `renders_fragment`: The text of a formula is a row of And, and means the formula.
* `renders_junction`: Rows of And between one connective mean what it makes of them.
* `readsAs_of_renders`: A whole text is read, and all readings have its meaning.
-/

namespace GridQuery

namespace Sql

/-- The text stands for something of the level, with a truth for every assignment. -/
def Renders (level : Level) (text : List Char) (m : (Atom → Bool) → Bool) : Prop :=
  ∃ ts items f, Spells text ts ∧ Groups ts items ∧ Reads level items f ∧ ∀ v, f.eval v = m v

/-- The truth of many parts under a connective. -/
def Connective.combine : Connective → List Bool → Bool
  | .and, truths => truths.all id
  | .or, truths => truths.any id

theorem Connective.combine_singleton (c : Connective) (b : Bool) : c.combine [b] = b := by
  cases c
  · exact Bool.and_true b
  · exact Bool.or_false b

theorem Connective.combine_cons (c : Connective) (b : Bool) (bs : List Bool) :
    c.combine (b :: bs) = c.apply b (c.combine bs) := by
  cases c <;> rfl

/-! ## The words of the connectives -/

theorem isAlpha_of_isAlpha_toLower {c : Char} (h : c.toLower.isAlpha = true) :
    c.isAlpha = true := by
  -- Only capitals are changed, and those are letters.
  by_cases hupper : c.isUpper = true
  · have hletter : c.isAlpha = (c.isUpper || c.isLower) := rfl
    rw [hletter, hupper, Bool.true_or]
  · have hsame : c.toLower = c := dif_neg fun hrange => hupper (decide_eq_true hrange)
    rwa [hsame] at h

theorem isWord_of_isKeyword {keyword : String} {w : List Char} (h : isKeyword keyword w = true)
    (hne : keyword.toList ≠ []) (halpha : keyword.toList.all Char.isAlpha = true) :
    isWord w = true := by
  rw [isKeyword, beq_iff_eq] at h
  rw [← h, List.all_map, List.all_eq_true] at halpha
  -- Whatever the case, a keyword is letters only, and letters make a word.
  have hletters : ∀ c ∈ w, c.isAlpha = true := fun c hc => isAlpha_of_isAlpha_toLower (halpha c hc)
  cases w with
  | nil => exact absurd h.symm hne
  | cons c cs =>
      rw [isWord, Bool.and_eq_true, isWordStart, hletters c List.mem_cons_self]
      refine ⟨rfl, List.all_eq_true.2 fun d hd => ?_⟩
      rw [isWordChar, Char.isAlphanum, hletters d (List.mem_cons_of_mem c hd)]
      rfl

theorem isWord_of_ofWord? {w : List Char} {c : Connective} (h : Connective.ofWord? w = some c) :
    isWord w = true := by
  unfold Connective.ofWord? at h
  split at h
  · next hand => exact isWord_of_isKeyword hand (by decide) (by decide)
  · split at h
    · next hor => exact isWord_of_isKeyword hor (by decide) (by decide)
    · exact absurd h (by simp only [reduceCtorEq, not_false_eq_true])

/-! ## Text put together -/

theorem renders_test {t : Test} (h : t.Legible) {column : String}
    (hcolumn : isPlainName column = true) :
    Renders .factor (column.toList ++ ' ' :: t.render) fun v => v (t.atom column) := by
  rw [isPlainName, Bool.and_eq_true, Option.isNone_iff_eq_none] at hcolumn
  exact ⟨_, _, _, spells_append_blank (spells_word hcolumn.1) (spells_test h),
    groups_test h hcolumn.2, .atom _, fun _ => rfl⟩

theorem renders_single {c : Connective} {text : List Char} {m : (Atom → Bool) → Bool}
    (h : Renders c.operand text m) : Renders (.row c) text m := by
  rcases h with ⟨ts, items, f, hspells, hgroups, hreads, heval⟩
  exact ⟨ts, items, f, hspells, hgroups, .single hreads, heval⟩

theorem renders_parenthesized {text : List Char} {m : (Atom → Bool) → Bool}
    (h : Renders (.row .or) text m) : Renders .factor ('(' :: text ++ [')']) m := by
  rcases h with ⟨ts, items, f, hspells, hgroups, hreads, heval⟩
  refine ⟨_, _, f, spells_parenthesized hspells, ?_, .parenthesized hreads, heval⟩
  exact groups_append (groups_append groups_openParen hgroups) groups_closeParen

/-- Rows of operands are joined by their connective, in whichever case it is written. -/
theorem renders_joined {c : Connective} {w left right : List Char} {m n : (Atom → Bool) → Bool}
    (hw : Connective.ofWord? w = some c) (hleft : Renders (.row c) left m)
    (hright : Renders (.row c) right n) :
    Renders (.row c) (left ++ ' ' :: w ++ ' ' :: right) fun v => c.apply (m v) (n v) := by
  rcases hleft with ⟨ts, items, f, hspells, hgroups, hreads, heval⟩
  rcases hright with ⟨ts', items', f', hspells', hgroups', hreads', heval'⟩
  -- Two rows under one connective are one row, and its value is that of both.
  rcases exists_reads_joined hreads hreads' with ⟨k, hk, hkeval⟩
  refine ⟨ts ++ [.word w] ++ ts', _, k, ?_, ?_, hk, ?_⟩
  · exact spells_append_blank
      (spells_append_blank hspells (spells_word (isWord_of_ofWord? hw))) hspells'
  · have hjoined := groups_append (groups_append hgroups (groups_connective hw)) hgroups'
    rw [List.append_assoc items, List.singleton_append] at hjoined
    exact hjoined
  · intro v
    rw [hkeval, heval, heval']

theorem renders_congr {level : Level} {text : List Char} {m n : (Atom → Bool) → Bool}
    (h : Renders level text m) (hmn : ∀ v, m v = n v) : Renders level text n := by
  have heq : m = n := funext hmn
  rwa [← heq]

/-- Rows of operands with one connective between every two of them. -/
theorem renders_intercalate {α : Type} {c : Connective} {w : List Char}
    (hw : Connective.ofWord? w = some c) {text : α → List Char} {m : α → (Atom → Bool) → Bool}
    (x : α) (xs : List α) (h : ∀ y ∈ x :: xs, Renders (.row c) (text y) (m y)) :
    Renders (.row c) ((' ' :: w ++ [' ']).intercalate ((x :: xs).map text))
      fun v => c.combine ((x :: xs).map fun y => m y v) := by
  induction xs generalizing x with
  | nil =>
      simp only [List.map_cons, List.map_nil, List.intercalate_singleton,
        Connective.combine_singleton]
      exact h x List.mem_cons_self
  | cons y ys ih =>
      have hx := h x List.mem_cons_self
      have hrest := ih y fun z hz => h z (List.mem_cons_of_mem x hz)
      -- The first part joins what the rest makes already.
      have hjoined := renders_joined hw hx hrest
      rw [List.map_cons, List.map_cons, List.intercalate_cons_cons, ← List.map_cons]
      simp only [List.append_assoc, List.cons_append, List.nil_append] at hjoined ⊢
      refine renders_congr hjoined ?_
      intro v
      exact (Connective.combine_cons c (m x v) _).symm

theorem readsAs_of_renders {text : List Char} {m : (Atom → Bool) → Bool}
    (h : Renders (.row .or) text m) :
    (∃ f, ReadsAs text f) ∧ ∀ f, ReadsAs text f → ∀ v, f.eval v = m v := by
  rcases h with ⟨ts, items, f, hspells, hgroups, hreads, heval⟩
  have hf : ReadsAs text f :=
    ⟨ts, items, tokens?_of_spells hspells, items?_of_groups hgroups, hreads⟩
  refine ⟨⟨f, hf⟩, ?_⟩
  intro g hg v
  rw [eval_eq_of_readsAs hg hf v, heval]

end Sql

open Sql

/-! ## Formulas and criteria -/

/-- Every test of the formula is legible. -/
def Fragment.Legible : Fragment → Prop
  | .test t => t.Legible
  | .both left right => left.Legible ∧ right.Legible
  | .either left right => left.Legible ∧ right.Legible

/-- The truth of a formula on a column. -/
def Fragment.holds (v : Sql.Atom → Bool) (column : String) : Fragment → Bool
  | .test t => v (t.atom column)
  | .both left right => left.holds v column && right.holds v column
  | .either left right => left.holds v column || right.holds v column

/-- The truth of a criterion. -/
def Criterion.holds (v : Sql.Atom → Bool) (k : Criterion) : Bool :=
  k.fragment.holds v k.column

/-- What a conjunction makes of the truth of its parts; one that is not And is Or. -/
def truthUnder (conjunction : String) (truths : List Bool) : Bool :=
  if Text.sameIgnoringCase conjunction "and" then truths.all id else truths.any id

/-- The truth of joined parts. -/
def Junction.holds {α : Type} (truth : α → Bool) (j : Junction α) : Bool :=
  truthUnder j.conjunction (j.parts.map truth)

/-- The column has a plain name, and the formula on it is legible. -/
def Criterion.Legible (k : Criterion) : Prop :=
  isPlainName k.column = true ∧ k.fragment.Legible

namespace Sql

theorem renders_fragment {f : Fragment} (h : f.Legible) {column : String}
    (hcolumn : isPlainName column = true) :
    Renders (.row .and) (f.render column) fun v => f.holds v column := by
  induction f with
  | test t => exact renders_single (renders_test h hcolumn)
  | both left right ihleft ihright =>
      have hand : " and ".toList = ' ' :: "and".toList ++ [' '] := rfl
      have hjoined := renders_joined (w := "and".toList) (c := .and) (by decide) (ihleft h.1)
        (ihright h.2)
      rw [Fragment.render, hand]
      simp only [List.append_assoc, List.cons_append, List.nil_append] at hjoined ⊢
      exact hjoined
  | either left right ihleft ihright =>
      have hor : " or ".toList = ' ' :: "or".toList ++ [' '] := rfl
      have hjoined := renders_joined (w := "or".toList) (c := .or) (by decide)
        (renders_single (ihleft h.1)) (renders_single (ihright h.2))
      -- Or binds less than what may stand beside the formula, and so is closed in.
      have hfactor := renders_parenthesized hjoined
      rw [Fragment.render, hor]
      simp only [List.append_assoc, List.cons_append, List.nil_append] at hfactor ⊢
      exact renders_single hfactor

theorem renders_criterion {k : Criterion} (h : k.Legible) :
    Renders (.row .and) k.render fun v => k.holds v :=
  renders_fragment h.2 h.1

/-- A conjunction of a specification is one of the connectives. -/
theorem exists_ofWord?_of_isConjunction {word : String}
    (h : Specification.isConjunction word = true) :
    ∃ c, Connective.ofWord? word.toList = some c ∧
      ∀ truths, c.combine truths = truthUnder word truths := by
  have hand : Text.sameIgnoringCase word "and" = isKeyword "and" word.toList := rfl
  have hor : Text.sameIgnoringCase word "or" = isKeyword "or" word.toList := rfl
  rw [Specification.isConjunction, hand, hor] at h
  unfold truthUnder
  rw [hand, Connective.ofWord?]
  -- A word is tried as `and` first, in the text as in the specification.
  by_cases hkeyword : isKeyword "and" word.toList = true
  · rw [if_pos hkeyword]
    exact ⟨.and, rfl, fun truths => (if_pos hkeyword).symm⟩
  · rw [Bool.not_eq_true] at hkeyword
    rw [hkeyword, Bool.false_or] at h
    rw [hkeyword, if_neg Bool.false_ne_true, if_pos h]
    exact ⟨.or, rfl, fun truths => (if_neg Bool.false_ne_true).symm⟩

/-- Between Or a row of And is an operand, and between And its operands go on the row. -/
theorem renders_junction {α : Type} {j : Junction α}
    (hconjunction : Specification.isConjunction j.conjunction = true) (hne : j.parts ≠ [])
    {text : α → List Char} {m : α → (Atom → Bool) → Bool}
    (h : ∀ x ∈ j.parts, Renders (.row .and) (text x) (m x)) :
    Renders (.row .or) (j.render text) fun v => j.holds fun x => m x v := by
  rcases exists_ofWord?_of_isConjunction hconjunction with ⟨c, hc, hcombine⟩
  rcases List.exists_cons_of_ne_nil hne with ⟨first, others, hparts⟩
  have hrenders : Renders (.row .or) (j.render text) fun v =>
      c.combine (j.parts.map fun x => m x v) := by
    rw [hparts] at h
    rw [Junction.render, hparts]
    -- The parts are rows of And: between Or they are single operands.
    cases c with
    | and => exact renders_single (renders_intercalate hc first others h)
    | or => exact renders_intercalate hc first others fun x hx => renders_single (h x hx)
  refine renders_congr hrenders ?_
  intro v
  exact hcombine _

end Sql

end GridQuery
