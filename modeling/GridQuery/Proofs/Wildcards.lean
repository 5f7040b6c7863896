import GridQuery.Cell.Pattern
import Mathlib.Data.List.Infix
import Mathlib.Data.List.TakeWhile

/-!
# What Like Patterns Denote

The texts that a like pattern stands for, and the texts that it matches.

A pattern denotes a text if the text can be made from it by putting some text in the place of every
percent sign. Matching never puts anything anywhere. It asks for a start, an end or a part of the
text, depending on where the signs stand, and for a sign inside it asks for a start and an end and
for nothing about how the two lie to each other.

With one sign at an end, or one at each end, that is the same. The rest of the pattern is then one
piece, and a text that has the piece at the right place has something, if only the empty text, on
the side of the sign. With a sign inside there are two pieces, and a text that is shorter than both
together may have the one at its start and the other at its end, where they overlap. Such a text is
matched and not denoted, and there is no other difference: the length decides.

## Main definitions

* `Pattern.Denotes`: The texts that a pattern stands for.
* `Pattern.Decides`: A pattern has an answer at a text, and it says whether a statement holds.

## Theorems

* `Text.occursIn_iff_isInfix`: A word occurs in a text if the text is something around it.
* `Pattern.denotes_append`, `Pattern.denotes_sign`: What a piece and a sign denote.
* `Pattern.denotes_around_iff`: What two pieces around a sign denote.
* `Pattern.matches?_around`, `Pattern.matches?_part`: What is asked of a text.
* `Pattern.matches?_iff_denotes`: Matching and denoting, for all four shapes.
* `Pattern.not_matches?_iff_denotes`: Pieces that overlap.
-/

namespace GridQuery

namespace Text

theorem occursIn_iff_isInfix {word cs : List Char} : occursIn word cs = true ↔ word <:+: cs := by
  induction cs with
  | nil =>
      rw [occursIn, List.isEmpty_iff, List.infix_nil]
  | cons c cs ih =>
      rw [occursIn, Bool.or_eq_true, List.isPrefixOf_iff_prefix, ih, List.infix_cons_iff]

theorem afterLast_of_not_mem {sep : Char} {cs : List Char} (h : sep ∉ cs) :
    afterLast sep cs = cs := by
  have hrun : cs.reverse.takeWhile (· != sep) = cs.reverse := by
    rw [List.takeWhile_eq_self_iff]
    intro c hc
    rw [bne_iff_ne]
    rintro rfl
    exact h (List.mem_reverse.mp hc)
  rw [afterLast, hrun, List.reverse_reverse]

end Text

namespace Pattern

/-- The text is the pattern with some text in the place of every sign. -/
inductive Denotes : List Char → List Char → Prop
  | nil : Denotes [] []
  | char {c : Char} {pattern text : List Char} :
    c ≠ sign → Denotes pattern text → Denotes (c :: pattern) (c :: text)
  | run (inserted : List Char) {pattern text : List Char} :
    Denotes pattern text → Denotes (sign :: pattern) (inserted ++ text)

/-! ## Pieces and signs -/

theorem denotes_nil {text : List Char} : Denotes [] text ↔ text = [] := by
  constructor
  · intro h
    cases h
    rfl
  · rintro rfl
    exact .nil

/-- A sign denotes any text, whatever comes after it. -/
theorem denotes_sign {pattern text : List Char} :
    Denotes (sign :: pattern) text ↔
      ∃ inserted rest, text = inserted ++ rest ∧ Denotes pattern rest := by
  constructor
  · intro h
    cases h with
    | char hne _ => exact absurd rfl hne
    | run inserted hrest => exact ⟨inserted, _, rfl, hrest⟩
  · rintro ⟨inserted, rest, rfl, hrest⟩
    exact .run inserted hrest

/-- A piece without signs denotes itself. -/
theorem denotes_append {piece : List Char} (h : sign ∉ piece) {pattern text : List Char} :
    Denotes (piece ++ pattern) text ↔ ∃ rest, text = piece ++ rest ∧ Denotes pattern rest := by
  induction piece generalizing text with
  | nil =>
      simp only [List.nil_append, exists_eq_left']
  | cons c piece ih =>
      rw [List.mem_cons, not_or] at h
      constructor
      · -- The piece has no sign, so each of its characters stands for itself.
        intro hdenotes
        cases hdenotes with
        | char _ htail =>
            rcases (ih h.2).mp htail with ⟨rest, rfl, hrest⟩
            exact ⟨rest, rfl, hrest⟩
        | run _ _ => exact absurd rfl h.1
      · rintro ⟨rest, rfl, hrest⟩
        exact .char (Ne.symm h.1) ((ih h.2).mpr ⟨rest, rfl, hrest⟩)

theorem denotes_piece {piece : List Char} (h : sign ∉ piece) {text : List Char} :
    Denotes piece text ↔ text = piece := by
  have happend : Denotes (piece ++ []) text ↔ ∃ rest, text = piece ++ rest ∧ Denotes [] rest :=
    denotes_append h
  simpa only [List.append_nil, denotes_nil, exists_eq_right] using happend

/-- Two pieces around a sign denote the texts that have room for both, one at each end. -/
theorem denotes_around_iff {first last : List Char} (hfirst : sign ∉ first) (hlast : sign ∉ last)
    {text : List Char} :
    Denotes (first ++ sign :: last) text ↔
      first <+: text ∧ last <:+ text ∧ first.length + last.length ≤ text.length := by
  simp only [denotes_append hfirst, denotes_sign, denotes_piece hlast]
  constructor
  · rintro ⟨_, rfl, inserted, _, rfl, rfl⟩
    refine ⟨List.prefix_append _ _, ⟨first ++ inserted, List.append_assoc _ _ _⟩, ?_⟩
    simp only [List.length_append]
    omega
  · rintro ⟨⟨rest, rfl⟩, hsuffix, hlength⟩
    -- The text has room behind the first piece, so its end lies there.
    have hroom : last.length ≤ rest.length := by
      rw [List.length_append] at hlength
      omega
    rcases List.suffix_of_suffix_length_le hsuffix (List.suffix_append first rest) hroom with
      ⟨inserted, rfl⟩
    exact ⟨_, rfl, inserted, last, rfl, rfl⟩

/-- A piece between two signs denotes the texts that have it somewhere. -/
theorem denotes_part_iff {piece : List Char} (h : sign ∉ piece) {text : List Char} :
    Denotes (sign :: piece ++ [sign]) text ↔ piece <:+: text := by
  simp only [List.cons_append, denotes_sign, denotes_append h, denotes_nil]
  constructor
  · rintro ⟨before, _, rfl, _, rfl, after, _, rfl, rfl⟩
    refine ⟨before, after, ?_⟩
    rw [List.append_nil, List.append_assoc]
  · rintro ⟨before, after, rfl⟩
    refine ⟨before, piece ++ after, List.append_assoc _ _ _, after, rfl, after, [], ?_, rfl⟩
    rw [List.append_nil]

/-! ## What is asked of a text -/

theorem head?_around {first : List Char} (h : sign ∉ first) (last : List Char) :
    ((first ++ sign :: last).head? == some sign) = first.isEmpty := by
  cases first with
  | nil => exact beq_self_eq_true (some sign)
  | cons c first =>
      rw [List.mem_cons, not_or] at h
      simp only [List.cons_append, List.head?_cons, List.isEmpty_cons, beq_eq_false_iff_ne, ne_eq,
        Option.some.injEq, Ne.symm h.1, not_false_eq_true]

theorem getLast?_around {last : List Char} (h : sign ∉ last) (first : List Char) :
    ((first ++ sign :: last).getLast? == some sign) = last.isEmpty := by
  cases last with
  | nil => rw [List.getLast?_concat, List.isEmpty_nil, beq_self_eq_true]
  | cons c last =>
      have hlast : (first ++ sign :: c :: last).getLast? =
          some ((c :: last).getLast (List.cons_ne_nil c last)) := by
        rw [List.getLast?_append_cons, List.getLast?_cons_cons, List.getLast?_eq_some_getLast]
      have hne : (c :: last).getLast (List.cons_ne_nil c last) ≠ sign := fun heq =>
        h (heq ▸ List.getLast_mem _)
      simp only [hlast, List.isEmpty_cons, beq_eq_false_iff_ne, ne_eq, Option.some.injEq, hne,
        not_false_eq_true]

/-- A sign between two pieces, or at an end where one of them is empty, asks for the one at the
start of the text and for the other at its end. -/
theorem matches?_around {first last : List Char} (hfirst : sign ∉ first) (hlast : sign ∉ last)
    (text : List Char) :
    matches? text (first ++ sign :: last) =
      some (first.isPrefixOf text && last.isSuffixOf text) := by
  -- An empty piece is at the start and at the end of every text.
  have hstart : ([] : List Char).isPrefixOf text = true :=
    List.isPrefixOf_iff_prefix.mpr List.nil_prefix
  have hend : ([] : List Char).isSuffixOf text = true :=
    List.isSuffixOf_iff_suffix.mpr List.nil_suffix
  simp only [matches?, Text.cut_append_cons hfirst, head?_around hfirst, getLast?_around hlast,
    Text.afterLast_of_not_mem hlast]
  cases first with
  | nil =>
      cases last with
      | nil =>
          -- The sign is alone, and is at the end only as far as it is at the start.
          simp only [List.nil_append, hstart, List.isEmpty_nil, List.length_cons,
            List.length_nil, Nat.zero_add, Nat.lt_irrefl, decide_false, Bool.and_false,
            List.drop_succ_cons, List.drop_zero, hend, Bool.and_self]
      | cons d last =>
          simp only [List.nil_append, hstart, List.isEmpty_nil, List.isEmpty_cons,
            Bool.false_and, List.drop_succ_cons, List.drop_zero, Bool.true_and]
  | cons c first =>
      cases last with
      | nil =>
          have hlength : 1 < (c :: first ++ [sign]).length := by
            rw [List.length_append, List.length_cons, List.length_singleton]
            omega
          simp only [List.isEmpty_cons, List.isEmpty_nil, hlength, decide_true, Bool.and_self,
            List.dropLast_concat, hend, Bool.and_true]
      | cons d last => simp only [List.isEmpty_cons, Bool.false_and]

/-- A sign at each end asks for what is between them anywhere in the text. -/
theorem matches?_part (piece text : List Char) :
    matches? text (sign :: piece ++ [sign]) = some (Text.occursIn piece text) := by
  have hcut : Text.cut sign (sign :: piece ++ [sign]) = some ([], piece ++ [sign]) := if_pos rfl
  have hhead : (sign :: piece ++ [sign]).head? = some sign := rfl
  have hinner : ((sign :: piece ++ [sign]).drop 1).dropLast = piece := List.dropLast_concat
  have hlength : 1 < (sign :: piece ++ [sign]).length := by
    rw [List.length_append, List.length_cons, List.length_singleton]
    omega
  simp only [matches?, hcut, hhead, beq_self_eq_true, List.getLast?_concat, hlength, decide_true,
    Bool.and_self, hinner]

/-! ## Matching and denoting -/

/-- The pattern has an answer at the text, and it is whether the statement holds. -/
def Decides (text pattern : List Char) (statement : Prop) : Prop :=
  ∃ answer, matches? text pattern = some answer ∧ (answer = true ↔ statement)

theorem decides_around {first last : List Char} (hfirst : sign ∉ first) (hlast : sign ∉ last)
    (text : List Char) :
    Decides text (first ++ sign :: last) (first <+: text ∧ last <:+ text) := by
  refine ⟨_, matches?_around hfirst hlast text, ?_⟩
  rw [Bool.and_eq_true, List.isPrefixOf_iff_prefix, List.isSuffixOf_iff_suffix]

/-- A pattern with one sign, or with a sign at each end, has an answer at every text. With the signs
at the ends it is whether the pattern denotes the text. With the sign between two pieces it is
whether the text starts with the one and ends with the other; the pattern denotes the text if it has
room for both besides. -/
theorem matches?_iff_denotes {first last : List Char} (hfirst : sign ∉ first)
    (hlast : sign ∉ last) (text : List Char) :
    Decides text (first ++ [sign]) (Denotes (first ++ [sign]) text) ∧
      Decides text (sign :: last) (Denotes (sign :: last) text) ∧
      Decides text (sign :: first ++ [sign]) (Denotes (sign :: first ++ [sign]) text) ∧
      Decides text (first ++ sign :: last) (first <+: text ∧ last <:+ text) ∧
      (Denotes (first ++ sign :: last) text ↔
        (first <+: text ∧ last <:+ text) ∧ first.length + last.length ≤ text.length) := by
  have hnone : sign ∉ ([] : List Char) := List.not_mem_nil
  refine ⟨?_, ?_, ?_, decides_around hfirst hlast text, ?_⟩
  · -- One piece has room wherever it is found, so the length says nothing more.
    have hroom : first <+: text → first.length + 0 ≤ text.length := fun h => h.length_le
    rcases decides_around hfirst hnone text with ⟨answer, hanswer, hiff⟩
    refine ⟨answer, hanswer, hiff.trans ?_⟩
    rw [denotes_around_iff hfirst hnone, List.length_nil]
    exact ⟨fun h => ⟨h.1, h.2, hroom h.1⟩, fun h => ⟨h.1, h.2.1⟩⟩
  · -- The same for one piece at the end.
    have hroom : last <:+ text → 0 + last.length ≤ text.length := fun h =>
      (Nat.zero_add _).symm ▸ h.length_le
    rcases decides_around hnone hlast text with ⟨answer, hanswer, hiff⟩
    have hdenotes : Denotes (sign :: last) text ↔
        [] <+: text ∧ last <:+ text ∧ 0 + last.length ≤ text.length :=
      denotes_around_iff hnone hlast
    refine ⟨answer, hanswer, hiff.trans ?_⟩
    rw [hdenotes]
    exact ⟨fun h => ⟨h.1, h.2, hroom h.2⟩, fun h => ⟨h.1, h.2.1⟩⟩
  · -- A sign on both sides asks for the piece anywhere.
    refine ⟨_, matches?_part first text, ?_⟩
    rw [Text.occursIn_iff_isInfix, denotes_part_iff hfirst]
  · -- Of two pieces the pattern asks that the text has both with room for them.
    rw [denotes_around_iff hfirst hlast, and_assoc]

/-- The two pieces have a letter in common here, and are matched in it. -/
theorem matches?_iff_denotes_overlapping :
    let first : List Char := ['a', 'b']
    let last : List Char := ['b', 'é']
    let text : List Char := ['a', 'b', 'é']
    sign ∉ first ∧ sign ∉ last ∧ matches? text (first ++ sign :: last) = some true ∧
      Decides text (first ++ sign :: last) (first <+: text ∧ last <:+ text) ∧
      Decides text (first ++ [sign]) (Denotes (first ++ [sign]) text) := by
  intro first last text
  have hfirst : sign ∉ first := by decide
  have hlast : sign ∉ last := by decide
  have hall := matches?_iff_denotes hfirst hlast text
  exact ⟨hfirst, hlast, by decide, hall.2.2.2.1, hall.1⟩

/-- A text that starts with the one piece and ends with the other is matched although it has no room
for both. -/
theorem not_matches?_iff_denotes :
    let pattern : List Char := ['a', 'b', sign, 'b', 'a']
    let text : List Char := ['a', 'b', 'a']
    matches? text pattern = some true ∧ ¬Denotes pattern text := by
  intro pattern text
  refine ⟨by decide, fun h => ?_⟩
  have hfirst : sign ∉ ['a', 'b'] := by decide
  have hlast : sign ∉ ['b', 'a'] := by decide
  have hroom := ((denotes_around_iff hfirst hlast).mp h).2.2
  exact absurd hroom (by decide)

end Pattern

end GridQuery
