import GridQuery.Proofs.RejectedConditions
import GridQuery.Proofs.Sql.Outline

/-!
# Laws of the Comparisons of one Cell

How the answers hang together that a cell gives to the same value under different comparisons.

Equal and unequal are opposites in every family, because each family asks one question and turns the
answer around. The empty text is the value that finds blank cells: it is coerced to the blank input
for every kind but a checkbox, and a cell stands to it as it is blank or not. So a cell that is zero
or false is not found.

The orderings need more. What an ordered cell holds and what a text is coerced to are of one sort,
numbers or timestamps by the kind of the column, unless the cell is blank. Two of a sort are in one
of the three orders. The only exception is not-a-number, which no text of a value is read as, since
a value without a point has to be an integer and the name has no point; and no JSON number is it.
So it comes from a cell that is a text, and such a cell is in no order with anything.

## Main definitions

* `Cell.Empty`: What a blank cell is.
* `Cell.NotANumber`: A text that is read as the double that is not a number.
* `Cell.InOrder`: The answers to the orderings and to equality are those of an order.
* `Cell.Lawful`: The laws of a cell and a value.

## Theorems

* `Input.isNaN_of_readNumber?`: No value is read as not-a-number.
* `Cell.orderTo?_of_not_empty`: A cell that is not blank is in order with a value.
* `Cell.compare_unequal`: Unequal turns the answer of equal around.
* `Cell.compare_equal_blank`: What is equal to the blank input.
* `Cell.inOrder_compare`: The orderings and equality.
* `Cell.lawful_compare`: The laws hold for every cell and every value.
-/

namespace GridQuery

namespace Decimal

theorem isNaN_toBinary64 (d : Decimal) : d.toBinary64.isNaN = false := by
  unfold toBinary64
  split_ifs <;> exact Binary64.isNaN_ofCode _ _

theorem mem_takeSign {c : Char} (hminus : c ≠ '-') (hplus : c ≠ '+') {cs : List Char}
    (h : c ∈ cs) : c ∈ (takeSign cs).2 := by
  rcases takeSign_eq cs with heq | ⟨sign, hsign, heq⟩
  · rwa [heq] at h
  · rw [heq, List.mem_cons] at h
    rcases h with rfl | hmem
    · rcases hsign with rfl | rfl
      · exact absurd rfl hminus
      · exact absurd rfl hplus
    · exact hmem

end Decimal

namespace Binary64

theorem isNaN_of_isFinite {x : Binary64} (h : x.isFinite = true) : x.isNaN = false := by
  have hlt : x.magnitude < infinityCode := of_decide_eq_true h
  exact decide_eq_false (by omega)

/-- The names have no point, so a text with one is read as a numeral or not at all. -/
theorem isNaN_of_read? {cs : List Char} (hpoint : '.' ∈ cs) {x : Binary64}
    (h : read? cs = some x) : x.isNaN = false := by
  have hsign : '.' ∈ (Decimal.takeSign cs).2 := Decimal.mem_takeSign (by decide) (by decide) hpoint
  have hlower : '.' ∈ (Decimal.takeSign cs).2.map Char.toLower := List.mem_map.mpr ⟨'.', hsign, rfl⟩
  have hname : ∀ word : String, '.' ∉ word.toList.map Char.toLower →
      Text.sameIgnoringCase (.ofList (Decimal.takeSign cs).2) word = false := by
    intro word hword
    refine beq_eq_false_iff_ne.mpr fun heq => hword ?_
    rw [← heq, String.toList_ofList]
    exact hlower
  -- A numeral is rounded to a number, and without one only the names are left.
  cases hread : Decimal.read? cs with
  | some d =>
      have hx : d.toBinary64 = x := by
        simpa only [read?, hread, Option.map_some, Option.some_or, Option.some.injEq] using h
      exact hx ▸ d.isNaN_toBinary64
  | none =>
      rw [read?, hread, Option.map_none, Option.none_or] at h
      simp only [readName?, hname "inf" (by decide), hname "infinity" (by decide),
        hname "nan" (by decide), Bool.or_self, Bool.false_eq_true, if_false, reduceCtorEq] at h

end Binary64

/-- An integer is rounded to a double that is a number. -/
theorem Number.isNaN_toBinary64 {n : Number} (h : (Json.number n).FiniteNumber) :
    n.toBinary64.isNaN = false := by
  cases n with
  | int n => exact Binary64.isNaN_ofCode _ _
  | double x => exact Binary64.isNaN_of_isFinite h

/-- The cells of an ordered kind are numbers or times. -/
theorem ColumnKind.sorts_of_ordered {kind : ColumnKind} (h : kind.family = .ordered) :
    (kind = .number ∨ kind = .rate ∨ kind = .duration) ∨
      (kind = .date ∨ kind = .ctime ∨ kind = .mtime) := by
  cases kind <;> first | decide | cases h

namespace Input

variable {kind : ColumnKind} {text : String} {input : Input}

theorem isNaN_of_readNumber? {x : Binary64} (h : readNumber? text = some x) :
    x.isNaN = false := by
  by_cases hpoint : '.' ∈ text.toList
  · have hcontains : text.toList.contains '.' = true := List.contains_iff_mem.mpr hpoint
    simp only [readNumber?, hcontains, if_true] at h
    exact Binary64.isNaN_of_read? hpoint h
  · have hcontains : text.toList.contains '.' = false := by
      rw [List.contains_eq_mem, decide_eq_false hpoint]
    simp only [readNumber?, hcontains, Bool.false_eq_true, if_false] at h
    rcases Option.map_eq_some_iff.mp h with ⟨n, -, rfl⟩
    exact Binary64.isNaN_ofCode _ _

/-- What is asked of a value in a column of numbers. -/
theorem coerce_numeral (hkind : kind = .number ∨ kind = .rate ∨ kind = .duration)
    (htext : text ≠ "") :
    coerce kind text = ((readNumber? text).map Input.number).elim
      (.error (.valueCoercion kind text .numberInput)) .ok := by
  have hempty : text.isEmpty = false := String.isEmpty_eq_false_iff.mpr htext
  rcases hkind with rfl | rfl | rfl <;> simp only [coerce, hempty, Bool.false_eq_true, if_false]

/-- What is asked of a value in a column of times. -/
theorem coerce_time (hkind : kind = .date ∨ kind = .ctime ∨ kind = .mtime) (htext : text ≠ "") :
    coerce kind text = ((Timestamp.readShort? text).map Input.timestamp).elim
      (.error (.valueCoercion kind text .dateInput)) .ok := by
  have hempty : text.isEmpty = false := String.isEmpty_eq_false_iff.mpr htext
  rcases hkind with rfl | rfl | rfl <;> simp only [coerce, hempty, Bool.false_eq_true, if_false]

theorem exists_number_of_coerce (hkind : kind = .number ∨ kind = .rate ∨ kind = .duration)
    (htext : text ≠ "") (h : coerce kind text = .ok input) :
    ∃ x, input = .number x ∧ x.isNaN = false := by
  rw [coerce_numeral hkind htext, elim_eq_ok_iff, Option.map_eq_some_iff] at h
  rcases h with ⟨x, hread, rfl⟩
  exact ⟨x, rfl, isNaN_of_readNumber? hread⟩

theorem exists_timestamp_of_coerce (hkind : kind = .date ∨ kind = .ctime ∨ kind = .mtime)
    (htext : text ≠ "") (h : coerce kind text = .ok input) : ∃ t, input = .timestamp t := by
  rw [coerce_time hkind htext, elim_eq_ok_iff, Option.map_eq_some_iff] at h
  rcases h with ⟨t, -, rfl⟩
  exact ⟨t, rfl⟩

/-- A value of an ordered column that is not empty has a sort. -/
theorem ne_blank_of_coerce (hfamily : kind.family = .ordered) (htext : text ≠ "")
    (h : coerce kind text = .ok input) : input ≠ .blank := by
  rcases ColumnKind.sorts_of_ordered hfamily with hkind | hkind
  · rcases exists_number_of_coerce hkind htext h with ⟨x, rfl, -⟩
    exact nofun
  · rcases exists_timestamp_of_coerce hkind htext h with ⟨t, rfl⟩
    exact nofun

/-- The empty text is blank, but for a checkbox. -/
theorem coerce_empty (h : kind ≠ .checkbox) : coerce kind "" = .ok .blank := by
  cases kind <;> first | rfl | exact absurd rfl h

end Input

theorem Family.supports_equal (family : Family) : family.supports .equal = true := by
  cases family <;> rfl

theorem Family.supports_unequal (family : Family) : family.supports .unequal = true := by
  cases family <;> rfl

namespace Cell

variable {kind : ColumnKind} {raw : Option Json} {text : String} {input : Input}

/-- What a blank cell is: missing, null, the empty text or the empty list. -/
def Empty (raw : Option Json) : Prop :=
  raw = none ∨ raw = some .null ∨ raw = some (.string "") ∨ raw = some (.array [])

/-- A text that is read as the double that is not a number. -/
def NotANumber (raw : Option Json) : Prop :=
  ∃ s x, raw = some (.string s) ∧ Binary64.read? s.toList = some x ∧ x.isNaN = true

theorem isBlank_iff : isBlank ⟨kind, raw⟩ = true ↔ Empty raw := by
  unfold Empty
  match raw with
  | none | some .null | some (.bool _) | some (.number _) | some (.object _) => simp [isBlank]
  | some (.string s) => simp [isBlank]
  | some (.array items) => simp [isBlank]

/-! ## What an ordered cell holds -/

theorem ordered_of_empty (h : Empty raw) : ordered ⟨kind, raw⟩ = .ok .blank := by
  rw [ordered, if_pos (isBlank_iff.mpr h)]

/-- A cell that is not blank is read as a time or as a number. -/
theorem ordered_of_not_empty {value : Json} (h : ¬Empty (some value)) :
    ordered ⟨kind, some value⟩ =
      if kind = .date ∨ kind = .ctime ∨ kind = .mtime then timestamp kind value
      else number kind value := by
  have hblank : isBlank ⟨kind, some value⟩ = false := Bool.eq_false_iff.mpr (mt isBlank_iff.mp h)
  rw [ordered, hblank, if_neg Bool.false_ne_true]
  cases kind <;> rfl

theorem exists_timestamp_of_ok {value : Json} {held : Ordered}
    (h : timestamp kind value = .ok held) : ∃ t, held = .timestamp t := by
  cases hread : (if kind.isSystemTime = true then Timestamp.read? (value.string?.getD "")
      else Timestamp.readShort? (value.string?.getD "")) with
  | none => simp only [timestamp, hread, reduceCtorEq] at h
  | some t =>
      simp only [timestamp, hread, Except.ok.injEq] at h
      exact ⟨t, h.symm⟩

theorem exists_number_of_ok {value : Json} {held : Ordered} (h : number kind value = .ok held) :
    ∃ x, held = .number x ∧
      (value.FiniteNumber → x.isNaN = true → NotANumber (some value)) := by
  cases value with
  | number n =>
      -- A number of the table is finite, so only a text can be no number.
      refine ⟨n.toBinary64, (Except.ok.inj h).symm, fun hfinite hnan => ?_⟩
      exact absurd ((Number.isNaN_toBinary64 hfinite).symm.trans hnan) Bool.false_ne_true
  | string s =>
      cases hread : Binary64.read? s.toList with
      | none => simp only [number, hread, reduceCtorEq] at h
      | some x =>
          simp only [number, hread, Except.ok.injEq] at h
          exact ⟨x, h.symm, fun _ hnan => ⟨s, x, rfl, hread, hnan⟩⟩
  | null | bool _ | array _ | object _ => exact nomatch h

theorem ordered_ne_blank (h : ¬Empty raw) : ordered ⟨kind, raw⟩ ≠ .ok .blank := by
  cases raw with
  | none => exact absurd (.inl rfl) h
  | some value =>
      rw [ordered_of_not_empty h]
      intro hblank
      split at hblank
      · rcases exists_timestamp_of_ok hblank with ⟨t, ht⟩
        exact nomatch ht
      · rcases exists_number_of_ok hblank with ⟨x, hx, -⟩
        exact nomatch hx

/-- A cell that is not blank and a value that is not empty are of one sort, so that they are in some
order, unless the cell is not a number. -/
theorem orderTo?_of_not_empty (hfamily : kind.family = .ordered)
    (hraw : ∀ v, raw = some v → v.FiniteNumber) (htext : text ≠ "")
    (hinput : Input.coerce kind text = .ok input) (hempty : ¬Empty raw) {held : Ordered}
    (h : ordered ⟨kind, raw⟩ = .ok held) :
    (∃ order, orderTo? held input = some order) ∨
      NotANumber raw ∧ orderTo? held input = none := by
  cases raw with
  | none => exact absurd (.inl rfl) hempty
  | some value =>
      rw [ordered_of_not_empty hempty] at h
      by_cases htimes : kind = .date ∨ kind = .ctime ∨ kind = .mtime
      · rw [if_pos htimes] at h
        -- Two instants can always be compared.
        rcases exists_timestamp_of_ok h with ⟨t, rfl⟩
        rcases Input.exists_timestamp_of_coerce htimes htext hinput with ⟨u, rfl⟩
        exact .inl ⟨Ord.compare t.key u.key, rfl⟩
      · rw [if_neg htimes] at h
        have hnumbers : kind = .number ∨ kind = .rate ∨ kind = .duration :=
          (ColumnKind.sorts_of_ordered hfamily).resolve_right htimes
        -- Two numbers can be compared unless the cell is not one; the value always is.
        rcases exists_number_of_ok h with ⟨x, rfl, hx⟩
        rcases Input.exists_number_of_coerce hnumbers htext hinput with ⟨y, rfl, hy⟩
        cases hnan : x.isNaN with
        | true =>
            refine .inr ⟨hx (hraw value rfl) hnan, ?_⟩
            simp only [orderTo?, Binary64.order?, hnan, Bool.true_or, if_true]
        | false =>
            refine .inl ⟨Ord.compare x.key y.key, ?_⟩
            simp only [orderTo?, Binary64.order?, hnan, hy, Bool.or_self, Bool.false_eq_true,
              if_false]

/-! ## Equal and unequal -/

/-- Unequal turns the answer of equal around, and fails where that fails. -/
theorem compare_unequal (cell : Cell) (input : Input) :
    compare cell .unequal input = (compare cell .equal input).map fun answer => !answer := by
  have hturn : ∀ b : Bool, (b == false) = !(b == true) := by decide
  have hequal : (Comparison.equal == .equal) = true := rfl
  have hunequal : (Comparison.unequal == .equal) = false := rfl
  simp only [compare, Family.supports_equal, Family.supports_unequal, Bool.not_true,
    Bool.false_eq_true, if_false]
  cases cell.kind.family with
  | text => cases input <;> simp only [compareText, hequal, hunequal, hturn, Except.map]
  | ordered =>
      -- Neither is an ordering, so that only the cell can fail, and it does not know which it is.
      have hordering : Comparison.equal.isOrdering = false := rfl
      have hordering' : Comparison.unequal.isOrdering = false := rfl
      simp only [compareOrdered, hordering, hordering', Bool.false_and, Bool.false_eq_true,
        if_false]
      cases cell.ordered with
      | error e => rfl
      | ok held => rfl
  | list => simp only [hequal, hunequal, hturn, Except.map]
  | bool => simp only [hequal, hunequal, hturn, Except.map]

/-- A cell is equal to the blank input, if it has an answer at all, as it is blank or not. -/
theorem compare_equal_blank (hkind : kind ≠ .checkbox) {answer : Bool}
    (h : compare ⟨kind, raw⟩ .equal .blank = .ok answer) : answer = true ↔ Empty raw := by
  simp only [compare, Family.supports_equal, Bool.not_true, Bool.false_eq_true, if_false] at h
  cases hfamily : kind.family with
  | text =>
      simp only [hfamily, compareText, Except.ok.injEq] at h
      rw [← h, ← isBlank_iff]
      exact beq_iff_eq
  | ordered =>
      rw [hfamily] at h
      rcases bind_eq_ok_iff.mp h with ⟨held, hheld, hholds⟩
      rw [← Except.ok.inj hholds]
      -- What an ordered cell holds is in order with the blank input only if it is blank itself.
      by_cases hempty : Empty raw
      · have hblank : held = .blank := Except.ok.inj (hheld.symm.trans (ordered_of_empty hempty))
        rw [hblank]
        exact iff_of_true rfl hempty
      · cases held with
        | blank => exact absurd hheld (ordered_ne_blank hempty)
        | number x => exact iff_of_false Bool.false_ne_true hempty
        | timestamp t => exact iff_of_false Bool.false_ne_true hempty
  | list =>
      simp only [hfamily, listEqual, Except.ok.injEq] at h
      rw [← h, ← isBlank_iff]
      exact beq_iff_eq
  | bool =>
      have hcheckbox : kind = .checkbox := by cases kind <;> first | rfl | cases hfamily
      exact absurd hcheckbox hkind

/-! ## The orderings -/

/-- The comparisons that an ordered cell answers by the order. -/
theorem compare_ordered (hfamily : kind.family = .ordered) {comparison : Comparison}
    (hlike : comparison ≠ .like) (hinput : input ≠ .blank) :
    compare ⟨kind, raw⟩ comparison input =
      (ordered ⟨kind, raw⟩).map fun held =>
        holds comparison (held == .blank) (orderTo? held input) := by
  have hsupports : Family.ordered.supports comparison = true := bne_iff_ne.mpr hlike
  have hblank : (input == .blank) = false := beq_eq_false_iff_ne.mpr hinput
  simp only [compare, hfamily, hsupports, Bool.not_true, Bool.false_eq_true, if_false,
    compareOrdered, hblank, Bool.and_false]
  rfl

/-- How many of less, equal and greater hold of an order. -/
def holding (blank : Bool) (order : Option Ordering) : Nat :=
  [holds .less blank order, holds .equal blank order, holds .greater blank order].count true

theorem holding_some (order : Ordering) : holding false (some order) = 1 := by
  cases order <;> rfl

theorem holding_none (blank : Bool) : holding blank none = 0 := by
  cases blank <;> rfl

/-- A blank cell is in no order, so that at least is larger or equal, and at most less or equal. -/
theorem holds_orEqual {blank : Bool} {order : Option Ordering} (h : blank = true → order = none) :
    holds .greaterEqual blank order =
        (holds .greater blank order || holds .equal blank order) ∧
      holds .lessEqual blank order =
        (holds .less blank order || holds .equal blank order) := by
  cases blank with
  | true =>
      rw [h rfl]
      exact ⟨rfl, rfl⟩
  | false => exact ⟨rfl, rfl⟩

theorem orderTo?_blank (h : input ≠ .blank) : orderTo? .blank input = none := by
  cases input with
  | blank => exact absurd rfl h
  | text _ | number _ | timestamp _ | bool _ => rfl

/-- How many of less, equal and greater hold of an ordered cell and a value that is not empty. -/
theorem holding_of_ordered (hfamily : kind.family = .ordered)
    (hraw : ∀ v, raw = some v → v.FiniteNumber) (htext : text ≠ "")
    (hinput : Input.coerce kind text = .ok input) {held : Ordered}
    (h : ordered ⟨kind, raw⟩ = .ok held) :
    (Empty raw → holding (held == .blank) (orderTo? held input) = 0) ∧
      (¬Empty raw → holding (held == .blank) (orderTo? held input) = 1 ∨
        NotANumber raw ∧ holding (held == .blank) (orderTo? held input) = 0) := by
  constructor
  · intro hempty
    -- An empty cell is ordered to no value at all.
    have hheld : held = .blank := Except.ok.inj (h.symm.trans (ordered_of_empty hempty))
    rw [hheld, orderTo?_blank (Input.ne_blank_of_coerce hfamily htext hinput), holding_none]
  · intro hempty
    have hheld : (held == .blank) = false := by
      refine beq_eq_false_iff_ne.mpr fun hblank => ?_
      exact ordered_ne_blank hempty (hblank ▸ h)
    -- Of the three answers exactly one holds where there is an order, and none where there is not.
    rcases orderTo?_of_not_empty hfamily hraw htext hinput hempty h with
      ⟨order, horder⟩ | ⟨hnan, hnone⟩
    · rw [hheld, horder]
      exact .inl (holding_some order)
    · rw [hnone]
      exact .inr ⟨hnan, holding_none _⟩

/-- The orderings and equality either fail all, and in one way, or they all have answers, of which
three give the others. At most one of the three holds, none for a blank cell, and one for every
other unless it is not a number. -/
def InOrder (kind : ColumnKind) (raw : Option Json) (input : Input) : Prop :=
  (∃ e, ∀ comparison, comparison = .equal ∨ comparison.isOrdering = true →
      compare ⟨kind, raw⟩ comparison input = .error e) ∨
    ∃ less equal greater,
      compare ⟨kind, raw⟩ .less input = .ok less ∧
      compare ⟨kind, raw⟩ .equal input = .ok equal ∧
      compare ⟨kind, raw⟩ .greater input = .ok greater ∧
      compare ⟨kind, raw⟩ .greaterEqual input = .ok (greater || equal) ∧
      compare ⟨kind, raw⟩ .lessEqual input = .ok (less || equal) ∧
      [less, equal, greater].count true ≤ 1 ∧
      (Empty raw → [less, equal, greater].count true = 0) ∧
      (¬Empty raw → [less, equal, greater].count true = 1 ∨
        NotANumber raw ∧ [less, equal, greater].count true = 0)

/-- An ordered cell and a value that is not empty are in order, as far as they are. -/
theorem inOrder_compare (hfamily : kind.family = .ordered)
    (hraw : ∀ v, raw = some v → v.FiniteNumber) (htext : text ≠ "")
    (hinput : Input.coerce kind text = .ok input) : InOrder kind raw input := by
  have hblank : input ≠ .blank := Input.ne_blank_of_coerce hfamily htext hinput
  cases hordered : ordered ⟨kind, raw⟩ with
  | error e =>
      -- The cell is read before anything is compared, so its error is that of all comparisons.
      refine .inl ⟨e, fun comparison hcomparison => ?_⟩
      have hlike : comparison ≠ .like := by
        rintro rfl
        exact hcomparison.elim nofun nofun
      rw [compare_ordered hfamily hlike hblank, hordered]
      rfl
  | ok held =>
      have hanswer : ∀ comparison, comparison ≠ .like →
          compare ⟨kind, raw⟩ comparison input =
            .ok (holds comparison (held == .blank) (orderTo? held input)) := by
        intro comparison hlike
        rw [compare_ordered hfamily hlike hblank, hordered]
        rfl
      have hnone : (held == .blank) = true → orderTo? held input = none := by
        intro hheld
        rw [beq_iff_eq.mp hheld, orderTo?_blank hblank]
      rcases holding_of_ordered hfamily hraw htext hinput hordered with ⟨hempty, hfull⟩
      have hmost : holding (held == .blank) (orderTo? held input) ≤ 1 := by
        by_cases h : Empty raw
        · have hzero := hempty h
          omega
        · rcases hfull h with hone | ⟨-, hzero⟩ <;> omega
      exact .inr ⟨_, _, _, hanswer .less nofun, hanswer .equal nofun, hanswer .greater nofun,
        (holds_orEqual hnone).1 ▸ hanswer .greaterEqual nofun,
        (holds_orEqual hnone).2 ▸ hanswer .lessEqual nofun, hmost, hempty, hfull⟩

/-! ## All laws -/

/-- The laws of a cell and a value that the text is coerced to. -/
structure Lawful (kind : ColumnKind) (raw : Option Json) (text : String) (input : Input) :
    Prop where
  /-- Equal and unequal fail as one, or have opposite answers. -/
  opposite :
    (∃ e, compare ⟨kind, raw⟩ .equal input = .error e ∧
        compare ⟨kind, raw⟩ .unequal input = .error e) ∨
      ∃ answer, compare ⟨kind, raw⟩ .equal input = .ok answer ∧
        compare ⟨kind, raw⟩ .unequal input = .ok !answer
  /-- The cells that are equal to the empty text are the blank ones. -/
  empty : kind ≠ .checkbox → text = "" →
    ∀ answer, compare ⟨kind, raw⟩ .equal input = .ok answer → (answer = true ↔ Empty raw)
  /-- The answers of an ordered cell to a value that is not empty are those of an order. -/
  order : kind.family = .ordered → text ≠ "" → InOrder kind raw input

/-- The laws hold for every kind of column, every cell and every text that means a value to the
kind. A cell that is a number is a finite one, as there is no other in JSON. -/
theorem lawful_compare (hraw : ∀ v, raw = some v → v.FiniteNumber)
    (hinput : Input.coerce kind text = .ok input) : Lawful kind raw text input where
  opposite := by
    rw [compare_unequal]
    cases compare ⟨kind, raw⟩ .equal input with
    | error e => exact .inl ⟨e, rfl, rfl⟩
    | ok answer => exact .inr ⟨answer, rfl, rfl⟩
  empty := by
    rintro hkind rfl answer hanswer
    have hblank : input = .blank :=
      Except.ok.inj (hinput.symm.trans (Input.coerce_empty hkind))
    rw [hblank] at hanswer
    exact compare_equal_blank hkind hanswer
  order := fun hfamily htext => inOrder_compare hfamily hraw htext hinput

/-- Zero is not blank: it is not equal to the empty text, and it is in order with a number. -/
theorem lawful_compare_zero :
    let raw : Option Json := some (.number (.int 0))
    let input : Input := .number ⟨true, 0x3FE0000000000000, by decide⟩
    (∀ v, raw = some v → v.FiniteNumber) ∧
      Input.coerce .number "" = .ok .blank ∧ Lawful .number raw "" .blank ∧
      Input.coerce .number "-0.5" = .ok input ∧ Lawful .number raw "-0.5" input ∧
      compare ⟨.number, raw⟩ .equal .blank = .ok false ∧
      compare ⟨.number, raw⟩ .greater input = .ok true := by
  intro raw input
  have hraw : ∀ v, raw = some v → v.FiniteNumber := by
    intro v hv
    rw [← Option.some.inj hv]
    trivial
  have hblank : Input.coerce .number "" = .ok .blank := by decide
  have hinput : Input.coerce .number "-0.5" = .ok input := by decide +kernel
  exact ⟨hraw, hblank, lawful_compare hraw hblank, hinput, lawful_compare hraw hinput,
    by decide +kernel, by decide +kernel⟩

end Cell

end GridQuery
