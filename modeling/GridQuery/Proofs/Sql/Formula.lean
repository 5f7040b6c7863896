import GridQuery.Proofs.Sql.Atoms

/-!
# The Grammar of Query Conditions

How the items of a condition are read as a formula.

    disjunction = conjunction { "or" conjunction }
    conjunction = factor { "and" factor }
    factor      = atom | "(" disjunction ")"

The two rows of operands have one form. What tells the connectives apart is what stands between
them: factors between And, and whole conjunctions between Or. That is all there is to And binding
tighter than Or, and `Connective.operand` says it.

Items that are put together from rows of operands are read again with their operands regrouped, to
the left, and the formulas are then not the same; but they agree under every truth assignment, and
that is what a condition means. So the statements here are on truth and not on the shape of
formulas. They need that a row of items has one truth at most, however it is read. `truth` works it
out from the items alone, from left to right, with one open disjunction for each open parenthesis,
and agrees with every reading. Nothing has to be inverted.

## Main definitions

* `Sql.Formula`, `Formula.eval`: Formulas, and their truth under an assignment.
* `Sql.Reads`: The grammar.
* `Sql.ReadsAs`: The formulas that a text can be read as.
* `Sql.truth`: The truth of a row of items.

## Theorems

* `truth_of_reads`: Every reading of the items has the truth of the items.
* `eval_eq_of_readsAs`: All readings of a text agree.
* `exists_reads_joined`: Two rows of operands, joined by their connective, are read again.
-/

namespace GridQuery

namespace Sql

/-- Atoms under connectives. -/
inductive Formula
  | atom (a : Atom)
  | joined (c : Connective) (left right : Formula)
  deriving DecidableEq

/-- The truth of two parts under a connective. -/
def Connective.apply : Connective → Bool → Bool → Bool
  | .and, a, b => a && b
  | .or, a, b => a || b

/-- The truth of a formula under an assignment to its atoms. -/
def Formula.eval (v : Atom → Bool) : Formula → Bool
  | .atom a => v a
  | .joined c left right => c.apply (left.eval v) (right.eval v)

/-- The rows of operands of a connective, and what can be an operand of each. -/
inductive Level
  | factor
  | row (c : Connective)
  deriving DecidableEq

/-- What stands between the signs of a connective. -/
def Connective.operand : Connective → Level
  | .and => .factor
  | .or => .row .and

/-- The items are read as the formula. -/
inductive Reads : Level → List Item → Formula → Prop
  | atom (a : Atom) : Reads .factor [.atom a] (.atom a)
  | parenthesized {items : List Item} {f : Formula} :
    Reads (.row .or) items f → Reads .factor (.openParen :: items ++ [.closeParen]) f
  | single {c : Connective} {items : List Item} {f : Formula} :
    Reads c.operand items f → Reads (.row c) items f
  | joined {c : Connective} {left right : List Item} {f g : Formula} :
    Reads (.row c) left f → Reads c.operand right g →
      Reads (.row c) (left ++ .connective c :: right) (.joined c f g)

/-- The text is read as the formula. -/
def ReadsAs (text : List Char) (f : Formula) : Prop :=
  ∃ ts items, tokens? text = some ts ∧ items? ts = some items ∧ Reads (.row .or) items f

/-! ## The truth of a row of items -/

/-- A disjunction that is being read: the truth of its finished conjunctions, and that of the
factors of the conjunction after them. -/
structure Frame where
  finished : Bool
  factors : Bool

namespace Frame

/-- The truth of the disjunction, if it ends here. -/
def value (fr : Frame) : Bool := fr.finished || fr.factors

/-- A further factor. -/
def meet (fr : Frame) (b : Bool) : Frame := { fr with factors := fr.factors && b }

/-- Before the first factor of a further conjunction. -/
def next (fr : Frame) : Frame := ⟨fr.value, true⟩

/-- Before anything of a disjunction is read. -/
def fresh : Frame := ⟨false, true⟩

end Frame

/-- What an item does to the open disjunctions, the innermost of which comes first. -/
def step (v : Atom → Bool) : List Frame → Item → List Frame
  | fr :: outer, .atom a => fr.meet (v a) :: outer
  | fr :: outer, .connective .or => fr.next :: outer
  | outer, .openParen => .fresh :: outer
  | fr :: enclosing :: outer, .closeParen => enclosing.meet fr.value :: outer
  | frames, _ => frames

/-- The truth of a row of items. -/
def truth (v : Atom → Bool) (items : List Item) : Bool :=
  (items.foldl (step v) [.fresh]).head?.any Frame.value

/-- What a row of items that is read at a level does to the innermost disjunction: factors and
conjunctions are met with what it has, and a disjunction is joined to it where a conjunction
begins. -/
def Effect (v : Atom → Bool) (items : List Item) (b : Bool) : Level → Prop
  | .factor | .row .and => ∀ fr outer,
    items.foldl (step v) (fr :: outer) = fr.meet b :: outer
  | .row .or => ∀ finished outer, ∃ fr,
    items.foldl (step v) (⟨finished, true⟩ :: outer) = fr :: outer ∧ fr.value = (finished || b)

theorem effect_of_reads {level : Level} {items : List Item} {f : Formula} (v : Atom → Bool)
    (h : Reads level items f) : Effect v items (f.eval v) level := by
  induction h with
  | atom a =>
      intro fr outer
      rfl
  | parenthesized _ ih =>
      intro fr outer
      -- The disjunction in parentheses has a frame of its own, which ends with it.
      rcases ih false (fr :: outer) with ⟨inner, hfold, hvalue⟩
      rw [Bool.false_or] at hvalue
      rw [List.cons_append, List.foldl_cons, List.foldl_append]
      change List.foldl (step v) (List.foldl (step v) (⟨false, true⟩ :: fr :: outer) _) _ = _
      rw [hfold, ← hvalue]
      rfl
  | @single c items f _ ih =>
      cases c with
      | and => exact ih
      | or =>
          intro finished outer
          exact ⟨_, ih ⟨finished, true⟩ outer, rfl⟩
  | @joined c left right f g _ _ ihleft ihright =>
      cases c with
      | and =>
          -- The right factor is met with what the left ones have made of the frame.
          intro fr outer
          rw [List.foldl_append, ihleft, List.foldl_cons]
          change List.foldl (step v) (fr.meet (f.eval v) :: outer) right = _
          rw [ihright]
          simp only [Frame.meet, Bool.and_assoc]
          rfl
      | or =>
          -- The left conjunctions are finished where the right one begins.
          intro finished outer
          rcases ihleft finished outer with ⟨fr, hfold, hvalue⟩
          refine ⟨fr.next.meet (g.eval v), ?_, ?_⟩
          · rw [List.foldl_append, hfold, List.foldl_cons]
            exact ihright fr.next outer
          · simp only [Frame.next, Frame.meet, Frame.value, Bool.true_and] at hvalue ⊢
            rw [hvalue, Bool.or_assoc]
            rfl

theorem truth_of_reads {items : List Item} {f : Formula} (h : Reads (.row .or) items f)
    (v : Atom → Bool) : truth v items = f.eval v := by
  rcases effect_of_reads v h false [] with ⟨fr, hfold, hvalue⟩
  rw [Bool.false_or] at hvalue
  unfold truth
  change (List.foldl (step v) [⟨false, true⟩] items).head?.any Frame.value = _
  rw [hfold, List.head?_cons, Option.any_some, hvalue]

theorem eval_eq_of_readsAs {text : List Char} {f g : Formula} (hf : ReadsAs text f)
    (hg : ReadsAs text g) (v : Atom → Bool) : f.eval v = g.eval v := by
  rcases hf with ⟨ts, items, htokens, hitems, hreads⟩
  rcases hg with ⟨ts', items', htokens', hitems', hreads'⟩
  rw [htokens, Option.some.injEq] at htokens'
  subst htokens'
  rw [hitems, Option.some.injEq] at hitems'
  subst hitems'
  rw [← truth_of_reads hreads v, ← truth_of_reads hreads' v]

/-! ## Rows of operands put together -/

theorem Connective.apply_assoc (c : Connective) (x y z : Bool) :
    c.apply (c.apply x y) z = c.apply x (c.apply y z) := by
  cases c
  · exact Bool.and_assoc x y z
  · exact Bool.or_assoc x y z

/-- The operands of the right row go to the end of the left one, one after another. -/
theorem exists_reads_joined {c : Connective} {left right : List Item} {f g : Formula}
    (hleft : Reads (.row c) left f) (hright : Reads (.row c) right g) :
    ∃ k, Reads (.row c) (left ++ .connective c :: right) k ∧
      ∀ v, k.eval v = c.apply (f.eval v) (g.eval v) := by
  generalize hlevel : Level.row c = level at hright
  induction hright with
  | atom a => exact absurd hlevel (by simp only [reduceCtorEq, not_false_eq_true])
  | parenthesized _ _ => exact absurd hlevel (by simp only [reduceCtorEq, not_false_eq_true])
  | single hoperand _ =>
      cases hlevel
      exact ⟨_, .joined hleft hoperand, fun v => rfl⟩
  | @joined c' right' last g' g'' _ hlast ih _ =>
      -- All but the last operand of the right row are on the left one already.
      cases hlevel
      rcases ih rfl with ⟨k, hk, heval⟩
      refine ⟨.joined c k g'', ?_, ?_⟩
      · have hitems : left ++ .connective c :: (right' ++ .connective c :: last) =
            (left ++ .connective c :: right') ++ .connective c :: last := by
          rw [List.append_assoc, List.cons_append]
        rw [hitems]
        exact .joined hk hlast
      · intro v
        simp only [Formula.eval, heval v, Connective.apply_assoc]

end Sql

end GridQuery
