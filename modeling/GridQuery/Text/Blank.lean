/-!
# Blank Characters

The characters that separate words in every text the library reads: conditions, terms, dates and
table lines are all cut and trimmed at the same class, the code points with the Unicode property
White_Space. The class is a table because core's `Char.isWhitespace` knows the ASCII part only.

Scanning works on `List Char`, where "the longest run with a property" is `takeWhile` and what
follows it is `dropWhile`, so that statements about a scan are statements about lists.

## Main definitions

* `Text.isBlank`: The property White_Space.
* `Text.dropEndWhile`: Drops the longest run with a property from the end.
* `Text.trim`: A text without the blanks at both ends.

## Theorems

* `Text.run_append`: Where a run of characters ends.
* `Text.exists_dropAround`, `Text.dropAround_append`: A text between what is dropped around it.
-/

namespace GridQuery

namespace Text

/-- The code points with the Unicode property White_Space. -/
def isBlank (c : Char) : Bool :=
  let n := c.toNat
  (9 ≤ n && n ≤ 13) || n == 32 || n == 0x85 || n == 0xA0 || n == 0x1680 ||
  (0x2000 ≤ n && n ≤ 0x200A) || n == 0x2028 || n == 0x2029 || n == 0x202F || n == 0x205F ||
  n == 0x3000

/-- Drops the longest run of characters with the property from the end. -/
def dropEndWhile (p : Char → Bool) (cs : List Char) : List Char :=
  (cs.reverse.dropWhile p).reverse

/-- Drops the longest runs of characters with the property from both ends. -/
def dropAround (p : Char → Bool) (cs : List Char) : List Char :=
  dropEndWhile p (cs.dropWhile p)

/-- The text without the blanks at its start. -/
def trimStart (cs : List Char) : List Char :=
  cs.dropWhile isBlank

/-- The text without the blanks at its end. -/
def trimEnd (s : String) : String :=
  .ofList (dropEndWhile isBlank s.toList)

/-- The text without the blanks at both ends. -/
def trim (s : String) : String :=
  .ofList (dropAround isBlank s.toList)

/-! ## Where runs end -/

variable {p : Char → Bool}

/-- A run of characters ends where another character, or none, follows it. -/
theorem run_append {cs rest : List Char} (hcs : cs.all p = true)
    (hrest : ∀ c ∈ rest.head?, p c = false) :
    (cs ++ rest).takeWhile p = cs ∧ (cs ++ rest).dropWhile p = rest := by
  have hmem : ∀ c ∈ cs, p c = true := List.all_eq_true.1 hcs
  rw [List.takeWhile_append_of_pos hmem, List.dropWhile_append_of_pos hmem]
  cases rest with
  | nil => exact ⟨List.append_nil cs, rfl⟩
  | cons c rest =>
      rw [List.takeWhile_cons, List.dropWhile_cons, hrest c rfl]
      exact ⟨List.append_nil cs, rfl⟩

/-! ## What is dropped around a text -/

theorem dropEndWhile_append {cs ds : List Char} (hcs : ∀ c ∈ cs.getLast?, p c = false)
    (hds : ds.all p = true) : dropEndWhile p (cs ++ ds) = cs := by
  have hhead : ∀ c ∈ cs.reverse.head?, p c = false := by
    rwa [List.head?_reverse]
  have hrun : ds.reverse.all p = true := by
    rwa [List.all_reverse]
  rw [dropEndWhile, List.reverse_append, (run_append hrun hhead).2, List.reverse_reverse]

theorem dropAround_append {us cs vs : List Char} (hus : us.all p = true) (hvs : vs.all p = true)
    (hhead : ∀ c ∈ cs.head?, p c = false) (hlast : ∀ c ∈ cs.getLast?, p c = false) (hne : cs ≠ []) :
    dropAround p (us ++ cs ++ vs) = cs := by
  rcases List.exists_cons_of_ne_nil hne with ⟨c, tail, rfl⟩
  have hrun : ∀ d ∈ (c :: tail ++ vs).head?, p d = false := hhead
  rw [dropAround, List.append_assoc, (run_append hus hrun).2, dropEndWhile_append hlast hvs]

/-- Nothing is dropped where no character has the property. -/
theorem dropAround_of_forall {cs : List Char} (h : ∀ c ∈ cs, p c = false) :
    dropAround p cs = cs := by
  by_cases hnil : cs = []
  · rw [hnil]
    rfl
  · have hnone : ([] : List Char).all p = true := rfl
    have hkept := dropAround_append hnone hnone (fun c hc => h c (List.mem_of_head? hc))
      (fun c hc => h c (List.mem_of_getLast? hc)) hnil
    rwa [List.nil_append, List.append_nil] at hkept

/-- What is dropped at the end of a list is a run with the property. -/
theorem exists_dropEndWhile (p : Char → Bool) (cs : List Char) :
    ∃ vs, cs = dropEndWhile p cs ++ vs ∧ vs.all p = true := by
  refine ⟨(cs.reverse.takeWhile p).reverse, ?_, ?_⟩
  · rw [dropEndWhile, ← List.reverse_append, List.takeWhile_append_dropWhile, List.reverse_reverse]
  · rw [List.all_reverse]
    exact List.all_takeWhile

/-- What is left stands between two runs that were dropped, and reaches to both. -/
theorem exists_dropAround (p : Char → Bool) (cs : List Char) :
    ∃ us vs, cs = us ++ dropAround p cs ++ vs ∧ us.all p = true ∧ vs.all p = true ∧
      (∀ c ∈ (dropAround p cs).head?, p c = false) ∧
      ∀ c ∈ (dropAround p cs).getLast?, p c = false := by
  have hhead : ∀ ds : List Char, ∀ c ∈ (ds.dropWhile p).head?, p c = false := by
    intro ds c hc
    have hnot := List.head?_dropWhile_not p ds
    rw [Option.mem_def.1 hc] at hnot
    exact hnot
  -- What is dropped at the end is dropped from what is left of the start.
  rcases exists_dropEndWhile p (cs.dropWhile p) with ⟨vs, hsplit, hvs⟩
  refine ⟨cs.takeWhile p, vs, ?_, List.all_takeWhile, hvs, ?_, ?_⟩
  · rw [List.append_assoc, dropAround, ← hsplit, List.takeWhile_append_dropWhile]
  · intro c hc
    -- If anything is left, it begins where the run at the start ended.
    refine hhead cs c ?_
    rw [dropAround] at hc
    rw [hsplit, List.head?_append, Option.mem_def.1 hc]
    rfl
  · intro c hc
    refine hhead (cs.dropWhile p).reverse c ?_
    rw [dropAround, dropEndWhile, List.getLast?_reverse] at hc
    exact hc

theorem dropAround_eq_nil_iff {cs : List Char} : dropAround p cs = [] ↔ cs.all p = true := by
  constructor
  · intro h
    rcases exists_dropAround p cs with ⟨us, vs, hsplit, hus, hvs, -, -⟩
    rw [hsplit, h, List.append_nil, List.all_append, hus, hvs]
    rfl
  · intro h
    have hend : ∀ c ∈ ([] : List Char).head?, p c = false := fun c hc =>
      absurd hc (Option.not_mem_none c)
    have hdrop := (run_append h hend).2
    rw [List.append_nil] at hdrop
    rw [dropAround, hdrop]
    rfl

/-- What is left begins and ends with characters that stay. -/
theorem dropAround_dropAround (cs : List Char) :
    dropAround p (dropAround p cs) = dropAround p cs := by
  rcases exists_dropAround p cs with ⟨-, -, -, -, -, hhead, hlast⟩
  by_cases hnil : dropAround p cs = []
  · rw [hnil]
    rfl
  · have hnone : ([] : List Char).all p = true := rfl
    have hleft := dropAround_append hnone hnone hhead hlast hnil
    rwa [List.nil_append, List.append_nil] at hleft

end Text

end GridQuery
