/-!
# Cutting Text

The ways a text is cut apart: at every separator, at the first one, after its first character, and
at the end of its first line. All are plain recursions on the characters.

## Main definitions

* `Text.splitOn`: The parts between the separators, in order; one more than there are separators.
* `Text.cut`: What stands before and after the first separator.
* `Text.after?`: What follows a character at the start of a text.
* `Text.occursIn`: Whether a text contains another.
* `Text.firstLine`: The text up to its first line end.

## Theorems

* `Text.splitOn_ne_nil`: There is always at least one part.
* `Text.intercalate_splitOn`: The parts, joined by the separator, are the text.
* `Text.eq_append_of_cut`: The two parts around the first separator are the text.
* `Text.cut_eq_some_iff`, `Text.cut_eq_none_iff`: Which separator is the first one, and when there
  is none.
-/

namespace GridQuery

namespace Text

/-- The parts of a text between its separators. -/
def splitOn (sep : Char) : List Char → List (List Char)
  | [] => [[]]
  | c :: cs =>
    if c = sep then [] :: splitOn sep cs
    else match splitOn sep cs with
      | [] => [[c]]
      | part :: parts => (c :: part) :: parts

/-- The text before and the text after the first separator, if there is one. -/
def cut (sep : Char) : List Char → Option (List Char × List Char)
  | [] => none
  | c :: cs =>
    if c = sep then some ([], cs)
    else (cut sep cs).map fun (before, after) => (c :: before, after)

/-- The text after the last separator, or the whole text where there is none. -/
def afterLast (sep : Char) (cs : List Char) : List Char :=
  (cs.reverse.takeWhile (· != sep)).reverse

/-- What follows the character, if the text begins with it. -/
def after? (expected : Char) : List Char → Option (List Char)
  | [] => none
  | c :: cs => if c = expected then some cs else none

/-- The text contains the word as a run of adjacent characters. -/
def occursIn (word : List Char) : List Char → Bool
  | [] => word.isEmpty
  | c :: cs => word.isPrefixOf (c :: cs) || occursIn word cs

/-- The text up to its first line end; a line feed ends a line, with or without a carriage return
before it. -/
def firstLine (s : String) : String :=
  match cut '\n' s.toList with
  | none => s
  | some (line, _) => .ofList (if line.getLast? = some '\r' then line.dropLast else line)

/-- Two texts are equal up to the case of ASCII letters. -/
def sameIgnoringCase (a b : String) : Bool :=
  a.toList.map Char.toLower == b.toList.map Char.toLower

theorem splitOn_ne_nil (sep : Char) (cs : List Char) : splitOn sep cs ≠ [] := by
  cases cs with
  | nil => simp [splitOn]
  | cons c cs =>
      simp only [splitOn]
      split
      · simp
      · split <;> simp

theorem intercalate_splitOn (sep : Char) (cs : List Char) :
    [sep].intercalate (splitOn sep cs) = cs := by
  induction cs with
  | nil => rfl
  | cons c cs ih =>
      simp only [splitOn]
      split
      · rename_i h
        -- A separator opens a new part, which the parts of the rest follow.
        rcases hs : splitOn sep cs with _ | ⟨part, parts⟩
        · exact absurd hs (splitOn_ne_nil sep cs)
        · rw [hs] at ih
          simp only [List.intercalate, List.intersperse, List.flatten_cons, List.nil_append,
            List.singleton_append] at ih ⊢
          rw [← ih, h]
      · -- Any other character goes to the first part of the rest.
        rcases hs : splitOn sep cs with _ | ⟨part, parts⟩
        · exact absurd hs (splitOn_ne_nil sep cs)
        · rw [hs] at ih
          rcases parts with _ | ⟨p, ps⟩
          · simpa [List.intercalate] using ih
          · simp only [List.intercalate, List.intersperse, List.flatten_cons,
              List.cons_append] at ih ⊢
            rw [← ih]

theorem eq_append_of_cut {sep : Char} {cs before after : List Char}
    (h : cut sep cs = some (before, after)) : cs = before ++ sep :: after := by
  induction cs generalizing before with
  | nil => simp [cut] at h
  | cons c cs ih =>
      simp only [cut] at h
      -- Either the cut is here, or it is that of the rest.
      split at h
      · next hc =>
          simp only [Option.some.injEq, Prod.mk.injEq] at h
          rw [← h.1, ← h.2, hc, List.nil_append]
      · obtain ⟨⟨front, back⟩, hcut, heq⟩ := Option.map_eq_some_iff.1 h
        simp only [Prod.mk.injEq] at heq
        obtain ⟨rfl, rfl⟩ := heq
        rw [ih hcut, List.cons_append]

theorem cut_append_cons {sep : Char} {before : List Char} (h : sep ∉ before)
    (after : List Char) : cut sep (before ++ sep :: after) = some (before, after) := by
  induction before with
  | nil => rw [List.nil_append, cut, if_pos rfl]
  | cons c before ih =>
      rw [List.mem_cons, not_or] at h
      rw [List.cons_append, cut, if_neg (Ne.symm h.1), ih h.2, Option.map_some]

theorem cut_eq_none_iff {sep : Char} {cs : List Char} : cut sep cs = none ↔ sep ∉ cs := by
  induction cs with
  | nil => simp [cut]
  | cons c cs ih =>
      rw [cut, List.mem_cons, not_or]
      split
      · next hc => simp [hc]
      · next hc => rw [Option.map_eq_none_iff, ih, and_iff_right (Ne.symm hc)]

theorem cut_eq_some_iff {sep : Char} {cs before after : List Char} :
    cut sep cs = some (before, after) ↔ cs = before ++ sep :: after ∧ sep ∉ before := by
  constructor
  · -- Everything before the cut was passed over for not being the separator.
    induction cs generalizing before with
    | nil => simp [cut]
    | cons c cs ih =>
        intro h
        refine ⟨eq_append_of_cut h, ?_⟩
        rw [cut] at h
        split at h
        · cases h
          exact List.not_mem_nil
        · next hc =>
            obtain ⟨⟨front, back⟩, hcut, heq⟩ := Option.map_eq_some_iff.1 h
            cases heq
            rw [List.mem_cons, not_or]
            exact ⟨Ne.symm hc, (ih hcut).2⟩
  · rintro ⟨rfl, h⟩
    exact cut_append_cons h after

end Text

end GridQuery
