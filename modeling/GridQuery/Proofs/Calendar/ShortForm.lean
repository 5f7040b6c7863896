import GridQuery.Proofs.Calendar.DateText
import GridQuery.Proofs.ComparisonLaws
import Mathlib.Data.List.Forall2

/-!
# The Short Form of Timestamps

Which texts name a second of a day in the short form, and which come close and do not.

A text is cut at its blanks, and what follows the only blank at its colons. A text that was put
together of parts without separators is cut into these parts again, so that a short form is read
part by part: the day by the reader of dates, and each field as a number. A field is a number if it
has digits and nothing else but a plus sign before them; zeros in front do not change it, and a
bound on it is needed only where a field is out of the range of a clock anyway. Up to three fields
are the hour, the minute and the second, and fields that are left out are zero. So a day and its
midnight, an hour and its first minute, have several spellings. All of them are read as one
timestamp, and a comparison sees only that.

What is not read is said of all texts and not only of those that begin with a date as it is written:
a second blank, a fourth field, an empty field, and a number that no clock shows.

## Main definitions

* `Decimal.Names`: The number that a field names.
* `Timestamp.Clock`: Up to three fields and the second of the day that they give.
* `Timestamp.shortText`: A text put together of a day and the fields of a time.
* `Timestamp.Spells`: The texts of a date and a time that name a timestamp.

## Theorems

* `Text.splitOn_eq`: Cutting at separators is what the standard library calls so.
* `Decimal.readBelow?_eq_some_iff`: Which texts are read as a number below a bound.
* `Timestamp.ofFields?_eq_some_iff`: Which fields are a time.
* `Timestamp.readShort?_shortText_eq_some_iff`: Texts with one blank, part by part.
* `Timestamp.readShort?_two_blanks`: A second blank is too many.
* `Timestamp.readShort?_of_spells`: Each spelling is read as its timestamp.
* `Timestamp.readShort?_exact`: What is read, what is not, and what a comparison sees.
-/

namespace GridQuery

namespace Text

/-! ## Cutting what was joined -/

/-- Cutting at separators is what the standard library calls so. -/
theorem splitOn_eq (sep : Char) (cs : List Char) : splitOn sep cs = cs.splitOn sep := by
  induction cs with
  | nil => rfl
  | cons c cs ih =>
      rw [splitOn, ih, List.splitOn_eq_splitOnP, List.splitOn_eq_splitOnP,
        List.splitOnP_cons_eq_if_modifyHead]
      simp only [beq_iff_eq]
      split
      · rfl
      · rcases hparts : List.splitOnP (· == sep) cs with _ | ⟨part, parts⟩
        · exact absurd (ih.trans hparts) (splitOn_ne_nil sep cs)
        · rfl

theorem splitOn_of_not_mem {sep : Char} {cs : List Char} (h : sep ∉ cs) :
    splitOn sep cs = [cs] := by
  rw [splitOn_eq, List.splitOn_eq_singleton h]

theorem splitOn_append_cons (sep : Char) (cs ds : List Char) :
    splitOn sep (cs ++ sep :: ds) = splitOn sep cs ++ splitOn sep ds := by
  simp only [splitOn_eq, List.splitOn_eq_splitOnP]
  exact List.splitOnP_append_cons cs ds (beq_self_eq_true sep)

theorem splitOn_intercalate {sep : Char} {parts : List (List Char)}
    (h : ∀ part ∈ parts, sep ∉ part) (hne : parts ≠ []) :
    splitOn sep ([sep].intercalate parts) = parts := by
  rw [splitOn_eq, List.splitOn_intercalate sep h hne]

/-- A character of joined parts is one of a part or the one they are joined by. -/
theorem mem_intercalate {sep c : Char} {parts : List (List Char)}
    (h : c ∈ [sep].intercalate parts) : c = sep ∨ ∃ part ∈ parts, c ∈ part := by
  induction parts with
  | nil => exact absurd h List.not_mem_nil
  | cons part parts ih =>
      by_cases hne : parts = []
      · rw [hne, List.intercalate_singleton] at h
        exact .inr ⟨part, List.mem_cons_self, h⟩
      · rw [List.intercalate_cons_of_ne_nil hne, List.mem_append, List.mem_append,
          List.mem_singleton] at h
        rcases h with (hpart | hsep) | hrest
        · exact .inr ⟨part, List.mem_cons_self, hpart⟩
        · exact .inl hsep
        · exact (ih hrest).imp id fun ⟨other, hother, hc⟩ =>
            ⟨other, List.mem_cons_of_mem part hother, hc⟩

end Text

namespace Decimal

/-! ## Numbers of a field -/

/-- The text names the number: digits with that value, after a plus sign or none. -/
def Names (cs : List Char) (n : Nat) : Prop :=
  ∃ ds, (cs = ds ∨ cs = '+' :: ds) ∧ ds ≠ [] ∧ ds.all Char.isDigit = true ∧ ofDigits ds = n

theorem readNat?_eq_some_iff {cs : List Char} {n : Nat} :
    readNat? cs = some n ↔ cs ≠ [] ∧ cs.all Char.isDigit = true ∧ ofDigits cs = n := by
  rw [readNat?, Option.ite_none_right_eq_some, Bool.and_eq_true, Bool.not_eq_true',
    List.isEmpty_eq_false_iff, Option.some.injEq, and_assoc]

/-- The digits are what is left of a plus sign at the front, which is no digit itself. -/
theorem names_iff {cs : List Char} {n : Nat} :
    Names cs n ↔ readNat? ((Text.after? '+' cs).getD cs) = some n := by
  simp only [readNat?_eq_some_iff]
  constructor
  · rintro ⟨ds, rfl | rfl, hne, hdigits, hvalue⟩
    · -- Digits have no plus in front.
      have hplus : Text.after? '+' cs = none := by
        refine Option.eq_none_iff_forall_ne_some.mpr fun rest hrest => ?_
        rw [Text.after?_eq_some_iff.mp hrest, List.all_cons] at hdigits
        exact Bool.false_ne_true hdigits
      rw [hplus]
      exact ⟨hne, hdigits, hvalue⟩
    · exact ⟨hne, hdigits, hvalue⟩
  · intro h
    cases hplus : Text.after? '+' cs with
    | none =>
        rw [hplus] at h
        exact ⟨cs, .inl rfl, h⟩
    | some rest =>
        rw [hplus] at h
        exact ⟨rest, .inr (Text.after?_eq_some_iff.mp hplus), h⟩

theorem readBelow?_eq_some_iff {bound n : Nat} {cs : List Char} :
    readBelow? bound cs = some n ↔ Names cs n ∧ n < bound := by
  rw [readBelow?, Option.filter_eq_some_iff, ← names_iff, decide_eq_true_eq]

theorem Names.eq {cs : List Char} {n m : Nat} (h : Names cs n) (h' : Names cs m) : n = m :=
  Option.some.inj ((names_iff.mp h).symm.trans (names_iff.mp h'))

theorem not_names_nil (n : Nat) : ¬Names [] n := by
  rintro ⟨ds, rfl | h, hne, -⟩
  · exact hne rfl
  · exact nomatch h

/-- Zeros in front of digits do not change the number. -/
theorem names_zeros_digits (zeros n : Nat) : Names (List.replicate zeros '0' ++ digits n) n := by
  refine ⟨_, .inl rfl, List.append_ne_nil_of_right_ne_nil _ (digits_ne_nil n), ?_, ?_⟩
  · rw [List.all_append, all_isDigit_zeros, all_isDigit_digits, Bool.and_self]
  · rw [ofDigits_zeros_append, ofDigits_digits]

theorem Names.not_mem {cs : List Char} {n : Nat} (h : Names cs n) {c : Char}
    (hdigit : c.isDigit = false) (hplus : c ≠ '+') : c ∉ cs := by
  rcases h with ⟨ds, hcs, -, hdigits, -⟩
  have hnot : c ∉ ds := fun hmem =>
    Bool.false_ne_true (hdigit.symm.trans (List.all_eq_true.mp hdigits c hmem))
  rcases hcs with rfl | rfl
  · exact hnot
  · exact List.not_mem_cons_of_ne_of_not_mem hplus hnot

end Decimal

namespace Timestamp

/-! ## Fields of a time -/

/-- Up to three fields that a clock shows, and the second of the day that they give. -/
inductive Clock : List Nat → Nat → Prop
  | hour {h : Nat} (hh : h < 24) : Clock [h] (h * 3600)
  | minute {h m : Nat} (hh : h < 24) (hm : m < 60) : Clock [h, m] (h * 3600 + m * 60)
  | second {h m s : Nat} (hh : h < 24) (hm : m < 60) (hs : s < 60) :
      Clock [h, m, s] (h * 3600 + m * 60 + s)

theorem secondOfDay?_eq_some_iff {h m s second : Nat} : secondOfDay? h m s = some second ↔
    (h < 24 ∧ m < 60 ∧ s < 60) ∧ h * 3600 + m * 60 + s = second := by
  rw [secondOfDay?, Option.ite_none_right_eq_some, Option.some.injEq]

theorem ofFields?_eq_some_iff {ns : List Nat} {second : Nat} :
    ofFields? ns = some second ↔ Clock ns second := by
  constructor
  · intro h
    -- One, two or three fields are a time of day; no field and a fourth one are not.
    match ns, h with
    | [hour], h =>
        rw [ofFields?, secondOfDay?_eq_some_iff] at h
        obtain rfl : hour * 3600 = second := by omega
        exact .hour h.1.1
    | [hour, minute], h =>
        rw [ofFields?, secondOfDay?_eq_some_iff] at h
        obtain rfl : hour * 3600 + minute * 60 = second := by omega
        exact .minute h.1.1 h.1.2.1
    | [_, _, _], h =>
        rw [ofFields?, secondOfDay?_eq_some_iff] at h
        rcases h with ⟨⟨hh, hm, hs⟩, rfl⟩
        exact .second hh hm hs
  · intro h
    cases h with
    | hour hh | minute hh hm | second hh hm hs =>
        rw [ofFields?, secondOfDay?_eq_some_iff]
        omega

/-- The first number that a clock does not show in the place of a field. -/
def fieldBound (place : Nat) : Nat :=
  if place = 0 then 24 else 60

theorem Clock.length_le {ns : List Nat} {second : Nat} (h : Clock ns second) :
    ns.length ≤ 3 := by
  cases h <;> simp only [List.length_cons, List.length_nil, Nat.reduceAdd, Nat.reduceLeDiff]

/-- Every field of a time is one that a clock shows. -/
theorem Clock.lt_bound {ns : List Nat} {second : Nat} (h : Clock ns second) {place n : Nat}
    (hn : ns[place]? = some n) : n < fieldBound place := by
  cases h with
  | hour hh =>
      match place, hn with
      | 0, rfl => exact hh
  | minute hh hm =>
      match place, hn with
      | 0, rfl => exact hh
      | 1, rfl => exact hm
  | second hh hm hs =>
      match place, hn with
      | 0, rfl => exact hh
      | 1, rfl => exact hm
      | 2, rfl => exact hs

/-! ## Texts of the short form -/

/-- The text put together of a day and the fields of a time. -/
def shortText (day : List Char) (fields : List (List Char)) : String :=
  .ofList (day ++ ' ' :: [':'].intercalate fields)

theorem readShort?_day {day : List Char} (h : ' ' ∉ day) :
    readShort? (.ofList day) = (Date.read? day).map fun d => ⟨d, 0, 0⟩ := by
  unfold readShort?
  rw [String.toList_ofList, Text.splitOn_of_not_mem h]

/-- Of the numbers below a bound no other fields are read than those of a clock. -/
theorem mapM_readBelow?_eq_some_iff {fields : List (List Char)} {ns : List Nat} {second : Nat}
    (hclock : Clock ns second) : fields.mapM (Decimal.readBelow? Word.size32) = some ns ↔
      List.Forall₂ Decimal.Names fields ns := by
  have hbound : ∀ n ∈ ns, n < Word.size32 := by
    intro n hn
    rcases List.mem_iff_getElem?.mp hn with ⟨place, hplace⟩
    have hlt := hclock.lt_bound hplace
    -- Every field of a time is below sixty, so that a word holds it.
    have hle : fieldBound place ≤ 60 := by
      unfold fieldBound
      split <;> decide
    have hsize : 60 < Word.size32 := by decide
    omega
  simp only [mapM_eq_some_iff, Decimal.readBelow?_eq_some_iff]
  refine ⟨fun h => h.imp fun _ _ h => h.1, fun h => ?_⟩
  have hboth := (List.forall₂_and_left ns fields).mpr ⟨hbound, h.flip⟩
  exact hboth.flip.imp fun _ _ h => h.symm

/-- A text with one blank is read part by part. -/
theorem readShort?_shortText_eq_some_iff {day : List Char} {fields : List (List Char)}
    (hday : ' ' ∉ day) (hfields : ∀ f ∈ fields, ' ' ∉ f ∧ ':' ∉ f) (hne : fields ≠ [])
    {t : Timestamp} : readShort? (shortText day fields) = some t ↔
      Date.read? day = some t.date ∧ t.nano = 0 ∧
        ∃ ns, List.Forall₂ Decimal.Names fields ns ∧ Clock ns t.second := by
  -- Neither the day nor a field has a blank, so the text falls apart where it was put together.
  have htime : ' ' ∉ [':'].intercalate fields := fun hmem =>
    (Text.mem_intercalate hmem).elim (by decide) fun ⟨f, hf, hc⟩ => (hfields f hf).1 hc
  have hparts : Text.splitOn ' ' (day ++ ' ' :: [':'].intercalate fields) =
      [day, [':'].intercalate fields] := by
    rw [Text.splitOn_append_cons, Text.splitOn_of_not_mem hday, Text.splitOn_of_not_mem htime]
    rfl
  have hsplit : Text.splitOn ':' ([':'].intercalate fields) = fields :=
    Text.splitOn_intercalate (fun f hf => (hfields f hf).2) hne
  unfold readShort? shortText
  simp only [String.toList_ofList, hparts, hsplit, Option.bind_eq_bind, Option.bind_eq_some_iff,
    Option.some.injEq]
  constructor
  · rintro ⟨d, hd, ns, hns, second, hsecond, rfl⟩
    have hclock := ofFields?_eq_some_iff.mp hsecond
    exact ⟨hd, rfl, ns, (mapM_readBelow?_eq_some_iff hclock).mp hns, hclock⟩
  · rintro ⟨hd, hnano, ns, hns, hclock⟩
    refine ⟨t.date, hd, ns, (mapM_readBelow?_eq_some_iff hclock).mpr hns, t.second,
      ofFields?_eq_some_iff.mpr hclock, ?_⟩
    rw [← hnano]

/-- A second blank is too many. -/
theorem readShort?_two_blanks (cs ds es : List Char) :
    readShort? (.ofList (cs ++ ' ' :: (ds ++ ' ' :: es))) = none := by
  -- A second blank makes a third part, and there is no form with three.
  have hlength : ∀ ds, 0 < (Text.splitOn ' ' ds).length := fun ds =>
    List.length_pos_iff.mpr (Text.splitOn_ne_nil ' ' ds)
  have hparts : 2 < (Text.splitOn ' ' (cs ++ ' ' :: (ds ++ ' ' :: es))).length := by
    have hcs := hlength cs
    have hds := hlength ds
    have hes := hlength es
    rw [Text.splitOn_append_cons, Text.splitOn_append_cons, List.length_append, List.length_append]
    omega
  unfold readShort?
  rw [String.toList_ofList]
  split
  · next heq =>
      rw [heq] at hparts
      exact absurd hparts (by decide : ¬2 < 1)
  · next heq =>
      rw [heq] at hparts
      exact absurd hparts (by decide : ¬2 < 2)
  · rfl

/-! ## Spellings -/

/-- The texts of a date, alone or before the fields of a time, that name a timestamp. -/
inductive Spells : String → Timestamp → Prop
  | day (d : Date) : Spells (.ofList d.text) ⟨d, 0, 0⟩
  | time (d : Date) {fields : List (List Char)} {ns : List Nat} {second : Nat}
      (hfields : List.Forall₂ Decimal.Names fields ns) (hclock : Clock ns second) :
      Spells (shortText d.text fields) ⟨d, second, 0⟩

theorem exists_names_getElem? {fields : List (List Char)} {ns : List Nat}
    (h : List.Forall₂ Decimal.Names fields ns) {place : Nat} {f : List Char}
    (hf : fields[place]? = some f) : ∃ n, ns[place]? = some n ∧ Decimal.Names f n := by
  induction h generalizing place with
  | nil => exact nomatch hf
  | cons hnames _ ih =>
      cases place with
      | zero => exact ⟨_, rfl, Option.some.inj hf ▸ hnames⟩
      | succ place => exact ih hf

theorem not_mem_of_names {fields : List (List Char)} {ns : List Nat}
    (h : List.Forall₂ Decimal.Names fields ns) : ∀ f ∈ fields, ' ' ∉ f ∧ ':' ∉ f := by
  induction h with
  | nil => exact fun _ hf => absurd hf List.not_mem_nil
  | cons hnames _ ih =>
      rintro f (_ | ⟨_, hf⟩)
      · exact ⟨hnames.not_mem rfl (by decide), hnames.not_mem rfl (by decide)⟩
      · exact ih f hf

theorem readShort?_of_spells {s : String} {t : Timestamp} (h : Spells s t) :
    readShort? s = some t := by
  cases h with
  | day d => rw [readShort?_day d.blank_not_mem_text, Date.read?_text, Option.map_some]
  | @time d fields ns second hfields hclock =>
      have hne : fields ≠ [] := by
        rintro rfl
        rw [List.forall₂_nil_left_iff.mp hfields] at hclock
        cases hclock
      rw [readShort?_shortText_eq_some_iff d.blank_not_mem_text (not_mem_of_names hfields) hne]
      exact ⟨Date.read?_text d, rfl, ns, hfields, hclock⟩

/-- To a column of times a spelling is its timestamp. -/
theorem coerce_of_spells {s : String} {t : Timestamp} (h : Spells s t) {kind : ColumnKind}
    (hkind : kind ∈ [ColumnKind.date, .ctime, .mtime]) :
    Input.coerce kind s = .ok (.timestamp t) := by
  have hread := readShort?_of_spells h
  have hne : s ≠ "" := by
    rintro rfl
    have hnone : readShort? "" = none := by decide
    rw [hnone] at hread
    exact nomatch hread
  simp only [List.mem_cons, List.not_mem_nil, or_false] at hkind
  rw [Input.coerce_time hkind hne, hread]
  rfl

/-- Too many fields, an empty one, or a number that no clock shows. -/
theorem readShort?_shortText_eq_none {day : List Char} {fields : List (List Char)}
    (hday : ' ' ∉ day) (hfields : ∀ f ∈ fields, ' ' ∉ f ∧ ':' ∉ f)
    (h : 3 < fields.length ∨ [] ∈ fields ∨ ∃ place f n, fields[place]? = some f ∧
      Decimal.Names f n ∧ fieldBound place ≤ n) : readShort? (shortText day fields) = none := by
  have hne : fields ≠ [] := by
    rintro rfl
    rcases h with h | h | ⟨place, f, n, h, -⟩
    · exact absurd h (by decide)
    · exact absurd h List.not_mem_nil
    · exact absurd h (by simp only [List.getElem?_nil, reduceCtorEq, not_false_eq_true])
  -- If the text were read, its fields would name a time.
  refine Option.eq_none_iff_forall_ne_some.mpr fun t hread => ?_
  rcases (readShort?_shortText_eq_some_iff hday hfields hne).mp hread with
    ⟨-, -, ns, hnames, hclock⟩
  rcases h with hmany | hempty | ⟨place, f, n, hf, hn, hbound⟩
  · -- A time has three fields at most.
    have hlength := hnames.length_eq
    have hle := hclock.length_le
    omega
  · -- An empty field names no number.
    rcases List.mem_iff_getElem?.mp hempty with ⟨place, hplace⟩
    rcases exists_names_getElem? hnames hplace with ⟨n, -, hn⟩
    exact Decimal.not_names_nil n hn
  · -- A field names one number, and that one is too large for its place.
    rcases exists_names_getElem? hnames hf with ⟨m, hm, hnames⟩
    have hlt := hclock.lt_bound hm
    have heq := hn.eq hnames
    omega

/-- A spelling of a timestamp is read as exactly the timestamp, whether fields are written with
zeros in front or not, and fields that are left out are zero. Of other texts none is read that has a
second blank, a fourth field, an empty field or a field that no clock shows. All spellings of a
timestamp are one value to a column of times, and so compare alike with every cell. -/
theorem readShort?_exact :
    (∀ s t, Spells s t → readShort? s = some t) ∧
    (∀ zeros n, Decimal.Names (List.replicate zeros '0' ++ Decimal.digits n) n) ∧
    (∀ cs ds es, readShort? (.ofList (cs ++ ' ' :: (ds ++ ' ' :: es))) = none) ∧
    (∀ day fields, ' ' ∉ day → (∀ f ∈ fields, ' ' ∉ f ∧ ':' ∉ f) →
      (3 < fields.length ∨ [] ∈ fields ∨ ∃ place f n, fields[place]? = some f ∧
        Decimal.Names f n ∧ fieldBound place ≤ n) → readShort? (shortText day fields) = none) ∧
    ∀ s s' t, Spells s t → Spells s' t → ∀ kind ∈ [ColumnKind.date, .ctime, .mtime],
      Input.coerce kind s = .ok (.timestamp t) ∧
      ∀ (cell : Cell) (comparison : Comparison),
        (Input.coerce kind s >>= cell.compare comparison) =
          (Input.coerce kind s' >>= cell.compare comparison) := by
  refine ⟨fun _ _ => readShort?_of_spells, Decimal.names_zeros_digits, readShort?_two_blanks,
    fun _ _ => readShort?_shortText_eq_none, fun s s' t h h' kind hkind => ?_⟩
  have hcoerce := coerce_of_spells h hkind
  refine ⟨hcoerce, fun cell comparison => ?_⟩
  rw [hcoerce, coerce_of_spells h' hkind]

/-- A leap day of a year with five digits: seven o'clock with one field and with three. -/
theorem readShort?_exact_leap :
    let t : Timestamp := ⟨⟨10000, 2, 29, by decide⟩, 25200, 0⟩
    let cell : Cell := ⟨.date, some (.string "+10000-02-29 06:59:59")⟩
    Spells "+10000-02-29 7" t ∧ Spells "+10000-02-29 007:00:0" t ∧
      readShort? "+10000-02-29 007:00:0" = some t ∧ readShort? "+10000-02-29 24" = none ∧
      readShort? "+10000-02-29 7 " = none ∧
      (Input.coerce .date "+10000-02-29 7" >>= cell.compare .less) =
        (Input.coerce .date "+10000-02-29 007:00:0" >>= cell.compare .less) := by
  intro t cell
  rcases readShort?_exact with ⟨hread, hnames, hblanks, hrejected, hcompare⟩
  have hshortText : shortText t.date.text [['7']] = "+10000-02-29 7" := by decide +kernel
  have hlongText : shortText t.date.text [['0', '0', '7'], ['0', '0'], ['0']] =
      "+10000-02-29 007:00:0" := by decide +kernel
  have hlateText : shortText t.date.text [['2', '4']] = "+10000-02-29 24" := by decide +kernel
  have hblankText : String.ofList (t.date.text ++ ' ' :: (['7'] ++ ' ' :: [])) =
      "+10000-02-29 7 " := by decide +kernel
  have hshort : Spells "+10000-02-29 7" t :=
    hshortText ▸ .time t.date (.cons (hnames 0 7) .nil) (.hour (by decide))
  have hlong : Spells "+10000-02-29 007:00:0" t :=
    hlongText ▸ .time t.date (.cons (hnames 2 7) (.cons (hnames 1 0) (.cons (hnames 0 0) .nil)))
      (.second (by decide) (by decide) (by decide))
  refine ⟨hshort, hlong, hread _ _ hlong, ?_, hblankText ▸ hblanks _ _ _,
    (hcompare _ _ _ hshort hlong .date (by decide)).2 cell _⟩
  exact hlateText ▸ hrejected t.date.text [['2', '4']] (by decide +kernel) (by decide)
    (.inr (.inr ⟨0, _, 24, rfl, hnames 0 24, by decide⟩))

end Timestamp

end GridQuery
