import GridQuery.Proofs.CellText
import GridQuery.View.Table

/-!
# Tables Are Aligned

What a table in plain text looks like, whatever it shows.

A table is a heading and one line a row, and each of them is an id and the texts of the columns. Of
an id at most six characters are shown, in a place of eight, and of a text as much as fits in a
place of twenty, after a blank. So the place of a column does not depend on what is shown in the
places before it. Width is counted in characters, and nothing else of a text matters, but that it
has no line feed: the texts of cells never have one, and those of ids and of names of columns are
asked not to.

Blanks at the end of a line are dropped, and not only those that fill its last place, but also those
that the last text ended with. `Aligned` says what stands where in the line with the dropped blanks
put back, so that all places are whole, and that nothing but blanks was dropped and no blank is
left.

## Main definitions

* `View.Shows`: What a place of a column shows of a text.
* `View.Lays`: A whole line, place by place.
* `View.Aligned`: A line without the blanks at its end.

## Theorems

* `View.drop_flatMap_of_length`: Pieces of one length stand at the multiples of it.
* `View.shows_framed`: Every text is shown in a place of twenty characters.
* `View.lays_places`: A whole line is made of an id and of places.
* `View.aligned_line`, `View.isLine_line`: A line is aligned, and has no line feed.
* `View.table_aligned`: A table has one line more than it has rows, all of them aligned.
-/

namespace GridQuery

namespace Text

variable {s : String}

theorem isLine_clipped (width : Nat) (h : IsLine s) : IsLine (clipped width s) := by
  unfold clipped
  split
  · rw [isLine_ofList, List.mem_append, not_or]
    exact ⟨fun hmem => h (List.mem_of_mem_take hmem), by decide⟩
  · exact h

theorem isLine_padded (width : Nat) (h : IsLine s) : IsLine (padded width s) := by
  rw [padded, isLine_ofList, List.mem_append, not_or]
  exact ⟨h, fun hmem => absurd (List.eq_of_mem_replicate hmem) (by decide)⟩

theorem isLine_trimEnd (h : IsLine s) : IsLine (trimEnd s) := by
  rcases exists_dropEndWhile isBlank s.toList with ⟨dropped, hsplit, -⟩
  rw [trimEnd, isLine_ofList]
  intro hmem
  rw [IsLine, hsplit, List.mem_append, not_or] at h
  exact h.1 hmem

theorem getLast?_dropEndWhile (p : Char → Bool) (cs : List Char) :
    ∀ c ∈ (dropEndWhile p cs).getLast?, p c = false := by
  intro c hc
  have hnot := List.head?_dropWhile_not p cs.reverse
  rw [dropEndWhile, List.getLast?_reverse] at hc
  rw [Option.mem_def.mp hc] at hnot
  exact hnot

end Text

namespace View

open Text

/-! ## Places -/

/-- What a place of a column shows of a text: the text and blanks after it, or the start of a text
that is too long, with three points. -/
def Shows (text : String) (place : List Char) : Prop :=
  (text.length ≤ 20 → place = text.toList ++ List.replicate (20 - text.length) ' ') ∧
    (20 < text.length → place = text.toList.take 17 ++ ['.', '.', '.'])

theorem length_of_shows {text : String} {place : List Char} (h : Shows text place) :
    place.length = 20 := by
  have hlength : text.toList.length = text.length := String.length_toList
  rcases Nat.lt_or_ge 20 text.length with hlong | hshort
  · rw [h.2 hlong, List.length_append, List.length_take, List.length_cons, List.length_cons,
      List.length_cons, List.length_nil]
    omega
  · rw [h.1 hshort, List.length_append, List.length_replicate]
    omega

theorem shows_framed (text : String) : Shows text (framed text).toList := by
  have hlength : text.toList.length = text.length := String.length_toList
  rw [framed, padded, String.toList_ofList]
  refine ⟨fun hshort => ?_, fun hlong => ?_⟩
  · -- A short text is padded only.
    have hwhole : clipped cellWidth text = text := if_neg (Nat.not_lt.mpr hshort)
    rw [hwhole]
    rfl
  · -- A long one is cut to fill the width exactly, so that nothing is padded.
    have hcut : clipped cellWidth text = .ofList (text.toList.take 17 ++ ['.', '.', '.']) :=
      if_pos hlong
    have hfull : (String.ofList (text.toList.take 17 ++ ['.', '.', '.'])).length = 20 := by
      rw [String.length_ofList, List.length_append, List.length_take]
      simp only [List.length_cons, List.length_nil]
      omega
    rw [hcut, hfull, String.toList_ofList]
    exact List.append_nil _

/-- A whole line: an id in a place of eight characters, and for each text a blank and a place of
twenty. -/
structure Lays (id : String) (texts : List String) (full : List Char) : Prop where
  length : full.length = 8 + 21 * texts.length
  id : full.take 8 = id.toList ++ List.replicate (8 - id.length) ' '
  gap : ∀ j < texts.length, full[8 + 21 * j]? = some ' '
  text : ∀ j, ∀ h : j < texts.length, Shows texts[j] ((full.drop (9 + 21 * j)).take 20)

/-- A line that is laid out in places, with blanks at its end dropped and no others. -/
def Aligned (id : String) (texts : List String) (line : String) : Prop :=
  ∃ dropped : List Char, Lays id texts (line.toList ++ dropped) ∧
    (∀ c ∈ dropped, isBlank c = true) ∧ ∀ c ∈ line.toList.getLast?, isBlank c = false

/-- Pieces of one length stand at the multiples of it. -/
theorem drop_flatMap_of_length {α β : Type} {f : α → List β} {width : Nat}
    (h : ∀ x, (f x).length = width) (xs : List α) (j : Nat) :
    (xs.flatMap f).drop (width * j) = (xs.drop j).flatMap f := by
  induction xs generalizing j with
  | nil => rw [List.flatMap_nil, List.drop_nil, List.drop_nil, List.flatMap_nil]
  | cons x xs ih =>
      cases j with
      | zero => rfl
      | succ j =>
          have hstep : width * (j + 1) = (f x).length + width * j := by
            rw [h, Nat.mul_succ, Nat.add_comm]
          rw [List.flatMap_cons, hstep, List.drop_length_add_append, ih, List.drop_succ_cons]

theorem length_flatMap_of_length {α β : Type} {f : α → List β} {width : Nat}
    (h : ∀ x, (f x).length = width) (xs : List α) :
    (xs.flatMap f).length = width * xs.length := by
  induction xs with
  | nil => rfl
  | cons x xs ih => rw [List.flatMap_cons, List.length_append, h, ih, List.length_cons,
      Nat.mul_succ, Nat.add_comm]

/-- A text in its place, with the blank in front of it. -/
def spaced (text : String) : List Char :=
  ' ' :: (framed text).toList

theorem length_spaced (text : String) : (spaced text).length = 21 := by
  rw [spaced, List.length_cons, length_of_shows (shows_framed text)]

theorem lays_places {id : String} (hid : id.length ≤ 8) (texts : List String) :
    Lays id texts ((padded idWidth id).toList ++ texts.flatMap spaced) := by
  have hlength : id.toList.length = id.length := String.length_toList
  have hplace : (padded idWidth id).toList = id.toList ++ List.replicate (8 - id.length) ' ' :=
    String.toList_ofList
  have height : (padded idWidth id).toList.length = 8 := by
    rw [hplace, List.length_append, List.length_replicate]
    omega
  -- Behind the id, the text of a column stands after the pieces of the columns before it.
  have hrest : ∀ j, ∀ h : j < texts.length,
      ((padded idWidth id).toList ++ texts.flatMap spaced).drop (8 + 21 * j) =
        spaced texts[j] ++ (texts.drop (j + 1)).flatMap spaced := by
    intro j h
    rw [← height, List.drop_length_add_append, drop_flatMap_of_length length_spaced,
      List.drop_eq_getElem_cons h, List.flatMap_cons]
  refine ⟨?_, ?_, fun j h => ?_, fun j h => ?_⟩
  · rw [List.length_append, height, length_flatMap_of_length length_spaced]
  · rw [List.take_left' height, hplace]
  · have hfirst := congrArg List.head? (hrest j h)
    rwa [List.head?_drop] at hfirst
  · have hnext : 9 + 21 * j = 8 + 21 * j + 1 := by omega
    have hshows := shows_framed texts[j]
    rw [hnext, ← List.drop_drop, hrest j h, spaced, List.cons_append, List.drop_succ_cons,
      List.drop_zero, List.take_left' (length_of_shows hshows)]
    exact hshows

/-! ## Lines -/

theorem aligned_line {id : String} (hid : id.length ≤ 8) (texts : List String) :
    Aligned id texts (line (padded idWidth id) texts) := by
  -- Before the line is trimmed every text takes its places, blanks included.
  have hpiece : ∀ text, (" " ++ framed text).toList = spaced text := fun text =>
    String.toList_append
  have hfull :
      (padded idWidth id ++ String.join (texts.map fun text => " " ++ framed text)).toList =
        (padded idWidth id).toList ++ texts.flatMap spaced := by
    rw [String.toList_append, String.toList_join, List.flatMap_map]
    simp only [hpiece]
  rcases exists_dropEndWhile isBlank ((padded idWidth id).toList ++ texts.flatMap spaced) with
    ⟨dropped, hsplit, hblank⟩
  have hline : (line (padded idWidth id) texts).toList =
      dropEndWhile isBlank ((padded idWidth id).toList ++ texts.flatMap spaced) := by
    rw [line, trimEnd, String.toList_ofList, hfull]
  -- What is trimmed off are blanks, and the line that is left ends with none.
  rw [Aligned, hline]
  exact ⟨dropped, hsplit ▸ lays_places hid texts, List.all_eq_true.mp hblank,
    getLast?_dropEndWhile isBlank _⟩

theorem isLine_line {id : String} {texts : List String} (hid : IsLine id)
    (htexts : ∀ text ∈ texts, IsLine text) : IsLine (line id texts) := by
  refine isLine_trimEnd (isLine_append.mpr ⟨hid, ?_⟩)
  rw [IsLine, String.toList_join, List.mem_flatMap]
  rintro ⟨piece, hpiece, hmem⟩
  rcases List.mem_map.mp hpiece with ⟨text, htext, rfl⟩
  have hblank : IsLine " " := by decide
  exact isLine_append.mpr ⟨hblank, isLine_padded _ (isLine_clipped _ (htexts text htext))⟩ hmem

theorem isLine_cellOf (row : Row) (column : Column) : IsLine (cellOf row column) := by
  unfold cellOf
  cases row.cell? column.name with
  | none => exact List.not_mem_nil
  | some value => exact value.isLine_cellText

theorem isLine_shortId {id : String} (h : IsLine id) : IsLine (shortId id) := by
  rw [shortId, isLine_ofList]
  exact fun hmem => h (List.mem_of_mem_take hmem)

theorem length_shortId_le (id : String) : (shortId id).length ≤ 8 := by
  rw [shortId, String.length_ofList, List.length_take]
  omega

/-- A table of rows is a heading and a line for each row, each ended by a line feed and without any
other, if there are none in the names of the columns and in the ids of the rows. Each line shows the
first six characters of an id and the texts of the columns at their places, whatever the cells
hold. -/
theorem table_aligned {columns : List Column} {rows : List Row} (hrows : rows ≠ [])
    (hcolumns : ∀ column ∈ columns, IsLine column.name) (hids : ∀ row ∈ rows, IsLine row.id) :
    ∃ head : String, ∃ lines : List String,
      table columns rows false = String.join ((head :: lines).map (· ++ "\n")) ∧
      (head :: lines).length = rows.length + 1 ∧ (∀ line ∈ head :: lines, IsLine line) ∧
      Aligned "ID" (columns.map Column.name) head ∧
      List.Forall₂ (fun row line =>
        Aligned (.ofList (row.id.toList.take 6)) (columns.map (cellOf row)) line) rows lines := by
  refine ⟨heading columns false, rows.map (rowLine columns false), ?_, ?_, ?_, ?_, ?_⟩
  · -- With a row there is a table, and its lines are the heading and one for each row.
    rw [table, List.isEmpty_eq_false_iff.mpr hrows, if_neg Bool.false_ne_true]
  · rw [List.length_cons, List.length_map]
  · -- A name and an id are lines by assumption, and a cell shows as one whatever it holds.
    rw [List.forall_mem_cons, List.forall_mem_map]
    refine ⟨?_, fun row hrow => ?_⟩
    · refine isLine_line (isLine_padded _ (by decide)) fun text htext => ?_
      rcases List.mem_map.mp htext with ⟨column, hcolumn, rfl⟩
      exact hcolumns column hcolumn
    · refine isLine_line (isLine_padded _ (isLine_shortId (hids row hrow))) fun text htext => ?_
      rcases List.mem_map.mp htext with ⟨column, -, rfl⟩
      exact isLine_cellOf row column
  · exact aligned_line (by decide) _
  · rw [List.forall₂_map_right_iff, List.forall₂_same]
    exact fun row _ => aligned_line (length_shortId_le row.id) _

/-- Texts of two lines in a nested list, a text that is cut behind a blank, and an object that is
shown as JSON, in which its line feed is escaped. -/
theorem table_aligned_two :
    let columns : List Column := [⟨"0000", "Name", .text, none⟩, ⟨"t1", "Tags", .file, none⟩]
    let first : Row := ⟨[("Name", .string "Alice\nLiddell"),
      ("Tags", .array [.array [.string "a\nb", .null], .string "c"]), ("_id", .string "row-0001")]⟩
    let second : Row := ⟨[("Name", .string "A name with a cut in it"),
      ("Tags", .object [("key", .string "\n")]), ("_id", .string "r2")]⟩
    [first, second] ≠ [] ∧ (∀ column ∈ columns, IsLine column.name) ∧
      (∀ row ∈ [first, second], IsLine row.id) ∧
      ∃ head line line', table columns [first, second] false =
          String.join [head ++ "\n", line ++ "\n", line' ++ "\n"] ∧
        Aligned "ID" ["Name", "Tags"] head ∧ Aligned "row-00" ["Alice", "a, c"] line ∧
        Aligned "r2" ["A name with a cut in it", "\x7b\"key\":\"\\n\"\x7d"] line' := by
  intro columns first second
  have hrows : [first, second] ≠ [] := List.cons_ne_nil _ _
  have hcolumns : ∀ column ∈ columns, IsLine column.name := by decide
  have hids : ∀ row ∈ [first, second], IsLine row.id := by decide
  rcases table_aligned hrows hcolumns hids with ⟨head, lines, htable, -, -, hhead, hlines⟩
  rcases List.forall₂_cons_left_iff.mp hlines with ⟨line, rest, hline, hrest, rfl⟩
  rcases List.forall₂_cons_left_iff.mp hrest with ⟨line', rest, hline', hnone, rfl⟩
  obtain rfl : rest = [] := List.forall₂_nil_left_iff.mp hnone
  have hfirst : columns.map (cellOf first) = ["Alice", "a, c"] := by decide +kernel
  have hsecond : columns.map (cellOf second) =
      ["A name with a cut in it", "\x7b\"key\":\"\\n\"\x7d"] := by decide +kernel
  have hid : String.ofList (first.id.toList.take 6) = "row-00" := by decide +kernel
  have hid' : String.ofList (second.id.toList.take 6) = "r2" := by decide +kernel
  rw [hfirst, hid] at hline
  rw [hsecond, hid'] at hline'
  exact ⟨hrows, hcolumns, hids, head, line, line', htable, hhead, hline, hline'⟩

end View

end GridQuery
