import Mathlib.Data.List.Forall2

/-!
# Computations that May Fail

What a successful result says about the computation that gave it. Conditions, specifications and
stores are all worked out step by step, and a step that fails ends the whole; so a result in hand
means that every step before it had one too. The lemmas read that off once for each way in which
steps are put together, and proofs about a function then take its steps apart without unfolding
the monad.

The first step that fails decides the error, and the steps after it are never made. On the items of
a list that is a search: `findSome?` for the failure of an item.

## Main definitions

* `errorOf?`: The error of a computation, if it failed.
* `FailsOnly`: The errors of a computation have a property.

## Theorems

* `bind_eq_ok_iff`, `bind_eq_error_iff`: One step after another.
* `map_eq_ok_iff`, `map_eq_error_iff`: A step whose result is changed by a function.
* `mapError_eq_ok_iff`: A step whose error is changed by a function.
* `elim_eq_ok_iff`: A step that fails where there is no value.
* `ite_eq_error_iff`: A step that fails where a condition does not hold.
* `exists_eq_ok_iff`: What does not fail has a result.
* `failsOnly_bind`, `failsOnly_map`, `failsOnly_ite`: The errors of steps are those of the whole.
* `mapM_eq_ok_iff`, `mapM_eq_some_iff`, `exists_of_mem_mapM`, `exists_mapM_iff`: The same step on
  every item of a list.
* `mapM_eq_error_iff`: It fails as it does on the first item on which it fails.
* `findSome?_errorOf?_eq_some_iff`: Which item that is.
-/

namespace GridQuery

variable {ε α β : Type}

theorem bind_eq_ok_iff {x : Except ε α} {f : α → Except ε β} {b : β} :
    (x >>= f) = .ok b ↔ ∃ a, x = .ok a ∧ f a = .ok b := by
  cases x with
  | error e => simp only [bind, Except.bind, reduceCtorEq, false_and, exists_false]
  | ok a => simp only [bind, Except.bind, Except.ok.injEq, exists_eq_left']

theorem map_eq_ok_iff {x : Except ε α} {f : α → β} {b : β} :
    x.map f = .ok b ↔ ∃ a, x = .ok a ∧ f a = b := by
  cases x with
  | error e => simp only [Except.map, reduceCtorEq, false_and, exists_false]
  | ok a => simp only [Except.map, Except.ok.injEq, exists_eq_left']

theorem mapError_eq_ok_iff {ε' : Type} {x : Except ε α} {f : ε → ε'} {a : α} :
    x.mapError f = .ok a ↔ x = .ok a := by
  cases x with
  | error e => simp only [Except.mapError, reduceCtorEq]
  | ok b => simp only [Except.mapError, Except.ok.injEq]

theorem elim_eq_ok_iff {x : Option α} {e : ε} {a : α} :
    x.elim (.error e) .ok = (.ok a : Except ε α) ↔ x = some a := by
  cases x with
  | none => simp only [Option.elim_none, reduceCtorEq]
  | some b => simp only [Option.elim_some, Except.ok.injEq, Option.some.injEq]

theorem mapM_eq_ok_iff {f : α → Except ε β} {xs : List α} {ys : List β} :
    xs.mapM f = .ok ys ↔ List.Forall₂ (fun x y => f x = .ok y) xs ys := by
  induction xs generalizing ys with
  | nil =>
      rw [List.mapM_nil, List.forall₂_nil_left_iff]
      exact ⟨fun h => (Except.ok.inj h).symm, fun h => congrArg Except.ok h.symm⟩
  | cons x xs ih =>
      rw [List.mapM_cons, bind_eq_ok_iff, List.forall₂_cons_left_iff]
      -- The first element succeeds and so do the others, in their order.
      constructor
      · rintro ⟨y, hy, htail⟩
        rcases bind_eq_ok_iff.1 htail with ⟨rest, hrest, heq⟩
        exact ⟨y, rest, hy, ih.1 hrest, (Except.ok.inj heq).symm⟩
      · rintro ⟨y, rest, hy, hrest, rfl⟩
        exact ⟨y, hy, bind_eq_ok_iff.2 ⟨rest, ih.2 hrest, rfl⟩⟩

theorem mapM_eq_some_iff {f : α → Option β} {xs : List α} {ys : List β} :
    xs.mapM f = some ys ↔ List.Forall₂ (fun x y => f x = some y) xs ys := by
  induction xs generalizing ys with
  | nil =>
      rw [List.mapM_nil, List.forall₂_nil_left_iff]
      exact ⟨fun h => (Option.some.inj h).symm, fun h => congrArg some h.symm⟩
  | cons x xs ih =>
      simp only [List.mapM_cons, List.forall₂_cons_left_iff, ← ih, Option.bind_eq_bind,
        Option.bind_eq_some_iff, Option.pure_def, Option.some.injEq]
      exact ⟨fun ⟨y, hy, rest, hrest, heq⟩ => ⟨y, rest, hy, hrest, heq.symm⟩,
        fun ⟨y, rest, hy, hrest, heq⟩ => ⟨y, hy, rest, hrest, heq.symm⟩⟩

/-- The error of a computation, if it failed. -/
def errorOf? : Except ε α → Option ε
  | .ok _ => none
  | .error e => some e

theorem errorOf?_eq_some_iff {x : Except ε α} {e : ε} : errorOf? x = some e ↔ x = .error e := by
  cases x with
  | error e' => simp only [errorOf?, Option.some.injEq, Except.error.injEq]
  | ok a => simp only [errorOf?, reduceCtorEq]

theorem bind_eq_error_iff {x : Except ε α} {f : α → Except ε β} {e : ε} :
    (x >>= f) = .error e ↔ x = .error e ∨ ∃ a, x = .ok a ∧ f a = .error e := by
  cases x with
  | error e' => simp only [bind, Except.bind, reduceCtorEq, false_and, exists_false, or_false,
      Except.error.injEq]
  | ok a => simp only [bind, Except.bind, Except.ok.injEq, exists_eq_left', reduceCtorEq, false_or]

theorem map_eq_error_iff {x : Except ε α} {f : α → β} {e : ε} :
    x.map f = .error e ↔ x = .error e := by
  cases x with
  | error e' => simp only [Except.map, Except.error.injEq]
  | ok a => simp only [Except.map, reduceCtorEq]

/-- A last step that cannot fail leaves the errors as they are. -/
theorem bind_ok_eq_error_iff {x : Except ε α} {f : α → β} {e : ε} :
    (x >>= fun a => .ok (f a)) = .error e ↔ x = .error e :=
  map_eq_error_iff

theorem ite_eq_error_iff {p : Prop} [Decidable p] {a : α} {e e' : ε} :
    (if p then .ok a else .error e' : Except ε α) = .error e ↔ ¬p ∧ e = e' := by
  by_cases h : p
  · simp only [h, if_true, reduceCtorEq, not_true_eq_false, false_and]
  · simp only [h, if_false, Except.error.injEq, not_false_eq_true, true_and]
    exact eq_comm

theorem exists_eq_ok_iff {x : Except ε α} : (∃ a, x = .ok a) ↔ ∀ e, x ≠ .error e := by
  cases x with
  | error e => exact iff_of_false nofun fun h => h e rfl
  | ok a => exact iff_of_true ⟨a, rfl⟩ nofun

theorem exists_eq_error_iff {x : Except ε α} : (∃ e, x = .error e) ↔ ¬∃ a, x = .ok a := by
  cases x with
  | error e => exact iff_of_true ⟨e, rfl⟩ nofun
  | ok a => exact iff_of_false nofun fun h => h ⟨a, rfl⟩

theorem mapM_eq_error_iff {f : α → Except ε β} {xs : List α} {e : ε} :
    xs.mapM f = .error e ↔ xs.findSome? (fun x => errorOf? (f x)) = some e := by
  induction xs with
  | nil =>
      rw [List.mapM_nil, List.findSome?_nil]
      exact iff_of_false nofun nofun
  | cons x xs ih =>
      rw [List.mapM_cons, bind_eq_error_iff, List.findSome?_cons]
      cases hx : f x with
      | error e' => simp only [errorOf?, Except.error.injEq, reduceCtorEq, false_and, exists_false,
          or_false, Option.some.injEq]
      | ok y =>
          -- Nothing follows the last item that could fail.
          have hrest : ∀ ys : List β, (pure (y :: ys) : Except ε (List β)) ≠ .error e := nofun
          simp only [errorOf?, reduceCtorEq, false_or, Except.ok.injEq, exists_eq_left',
            bind_eq_error_iff, ih, hrest, and_false, exists_false, or_false]

/-- The search for a failure ends at an item that fails, and finds none before it. -/
theorem findSome?_errorOf?_eq_some_iff {f : α → Except ε β} {xs : List α} {e : ε} :
    xs.findSome? (fun x => errorOf? (f x)) = some e ↔
      ∃ before x after, xs = before ++ x :: after ∧ (∀ y ∈ before, ∃ b, f y = .ok b) ∧
        f x = .error e := by
  have hnone : ∀ y, errorOf? (f y) = none ↔ ∃ b, f y = .ok b := by
    intro y
    cases f y with
    | error e' => simp only [errorOf?, reduceCtorEq, exists_false]
    | ok b => simp only [errorOf?, Except.ok.injEq, exists_eq']
  rw [List.findSome?_eq_some_iff]
  simp only [errorOf?_eq_some_iff, hnone]
  exact exists_congr fun before => exists_congr fun x => exists_congr fun after =>
    and_congr_right fun _ => And.comm

/-- Every error of a computation has a property. -/
def FailsOnly (P : ε → Prop) (x : Except ε α) : Prop :=
  ∀ e, x = .error e → P e

section FailsOnly

variable {P : ε → Prop} {x : Except ε α}

theorem failsOnly_ok (a : α) : FailsOnly P (.ok a : Except ε α) := nofun

theorem failsOnly_error {e : ε} (h : P e) : FailsOnly P (.error e : Except ε α) := by
  rintro e' ⟨⟩
  exact h

theorem failsOnly_bind {f : α → Except ε β} (hx : FailsOnly P x) (hf : ∀ a, FailsOnly P (f a)) :
    FailsOnly P (x >>= f) := by
  intro e h
  rcases bind_eq_error_iff.1 h with h | ⟨a, -, h⟩
  · exact hx e h
  · exact hf a e h

theorem failsOnly_map {f : α → β} (hx : FailsOnly P x) : FailsOnly P (f <$> x) :=
  fun e h => hx e (map_eq_error_iff.1 h)

theorem failsOnly_ite {p : Prop} [Decidable p] {y : Except ε α} (hx : FailsOnly P x)
    (hy : FailsOnly P y) : FailsOnly P (if p then x else y) := by
  by_cases h : p
  · rwa [if_pos h]
  · rwa [if_neg h]

theorem failsOnly_elim {e : ε} {x : Option α} (h : P e) :
    FailsOnly P (x.elim (.error e) .ok : Except ε α) := by
  cases x with
  | none => exact failsOnly_error h
  | some a => exact failsOnly_ok a

end FailsOnly

theorem exists_of_mem_mapM {f : α → Except ε β} {xs : List α} {ys : List β} {y : β}
    (h : xs.mapM f = .ok ys) (hy : y ∈ ys) : ∃ x ∈ xs, f x = .ok y := by
  have hall := mapM_eq_ok_iff.1 h
  clear h
  induction hall with
  | nil => exact absurd hy List.not_mem_nil
  | @cons x z xs ys hxz _ ih =>
      -- Results and elements are paired, so the result comes from the element at its place.
      rcases List.mem_cons.1 hy with rfl | htail
      · exact ⟨x, List.mem_cons_self, hxz⟩
      · rcases ih htail with ⟨x', hx', heq⟩
        exact ⟨x', List.mem_cons_of_mem x hx', heq⟩

theorem exists_mapM_iff {f : α → Except ε β} {xs : List α} :
    (∃ ys, xs.mapM f = .ok ys) ↔ ∀ x ∈ xs, ∃ y, f x = .ok y := by
  simp only [mapM_eq_ok_iff]
  induction xs with
  | nil => exact iff_of_true ⟨[], .nil⟩ nofun
  | cons x xs ih =>
      rw [List.forall_mem_cons, ← ih]
      constructor
      · rintro ⟨ys, hall⟩
        rcases List.forall₂_cons_left_iff.1 hall with ⟨y, rest, hy, hrest, -⟩
        exact ⟨⟨y, hy⟩, rest, hrest⟩
      · rintro ⟨⟨y, hy⟩, rest, hrest⟩
        exact ⟨y :: rest, .cons hy hrest⟩

end GridQuery
