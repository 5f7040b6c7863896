import GridQuery.Proofs.History
import GridQuery.Proofs.WritesById

/-!
# What a Deletion Reports

The count that a deletion through a selection answers, and the rows that its table loses.

A deletion counts the rows of the selection. The table loses the rows with their ids that it still
has, and these may be fewer: the selection is a copy, and others have deleted since it was made.
How many are missing depends on the whole history, and is told by it, because rows never come back.
Everything that a selection holds was in its table at the beginning, whether it was selected from
the table or from another selection. So an id of the selection is missing from the table if and only
if some deed deleted it, at whatever time and through whichever selection.

Where the selection comes from is what a single action has to keep: `Session.Within` says that
tables and selections have no ids but those of the tables at the beginning.

## Main definitions

* `Store.Holds`: The ids are among those of a table.
* `Session.Within`: A session has no ids but those of an earlier store.

## Theorems

* `Session.holds_of_made`: A selection that is made has ids of the earlier store.
* `Session.within_perform`, `Session.within_run`: An action, and a run, adds no ids.
* `Table.length_eq_dropRows`: How many rows a deletion takes from a table.
* `Session.delete_count`: What a deletion reports after a run, and what it takes.
* `Session.not_delete_count`: A deletion that reports rows and takes none.
-/

namespace GridQuery

/-- The store has the table, and the ids are among its ids. -/
def Store.Holds (store : Store) (name : String) (ids : List String) : Prop :=
  ∃ t, store.table? name = some t ∧ ids ⊆ t.ids

theorem Store.Holds.subset {store : Store} {name : String} {ids fewer : List String}
    (h : store.Holds name ids) (hfewer : fewer ⊆ ids) : store.Holds name fewer := by
  rcases h with ⟨t, ht, hids⟩
  exact ⟨t, ht, List.Subset.trans hfewer hids⟩

/-- What is selected from rows has no other ids than they have. -/
theorem Selection.ids_subset_of_matching {columns : List Column} {rows found : List Row}
    {conditions : String} (h : matching columns rows conditions = .ok found) :
    found.map Row.id ⊆ rows.map Row.id :=
  List.map_subset Row.id (count_ids_matching h).1

/-- Of two lists without repetitions, each has as many items of the other. -/
theorem length_filter_contains_comm {xs ys : List String} (hxs : xs.Nodup) (hys : ys.Nodup) :
    (xs.filter ys.contains).length = (ys.filter xs.contains).length := by
  have hperm : (xs.filter ys.contains).Perm (ys.filter xs.contains) := by
    refine (List.perm_ext_iff_of_nodup (hxs.filter _) (hys.filter _)).mpr fun id => ?_
    rw [List.mem_filter, List.mem_filter, List.contains_iff_mem, List.contains_iff_mem]
    exact And.comm
  exact hperm.length_eq

/-- A table has the rows that a deletion leaves and those with one of the ids. -/
theorem Table.length_eq_dropRows (t : Table) (ids : List String) :
    t.rows.length = (t.dropRows ids).rows.length + (t.ids.filter ids.contains).length := by
  have hsplit := List.length_eq_length_filter_add (l := t.rows) fun row => ids.contains row.id
  have hids : (t.ids.filter ids.contains).length =
      (t.rows.filter fun row => ids.contains row.id).length := by
    rw [Table.ids, List.filter_map, List.length_map]
    rfl
  rw [hids, dropRows]
  exact hsplit.trans (Nat.add_comm _ _)

namespace Session

/-- The tables and selections of a session have distinct ids, and only such as the tables of the
store have. -/
structure Within (origin : Store) (session : Session) : Prop where
  sound : session.Sound
  tables : ∀ name t, session.store.table? name = some t → origin.Holds name t.ids
  selections : ∀ name s, session.selection? name = some s → origin.Holds s.tableName s.ids

/-! ## Where selections come from -/

variable {origin : Store} {session : Session}

theorem holds_of_select (hwithin : Within origin session) {table conditions : String}
    {s : Selection} (h : session.store.select table conditions = .ok s) :
    origin.Holds s.tableName s.ids := by
  rcases Store.exists_of_select h with ⟨t, found, ht, hfound, rfl⟩
  exact (hwithin.tables table t ht).subset (Selection.ids_subset_of_matching hfound)

theorem holds_of_narrow (hwithin : Within origin session) {source conditions : String}
    {s narrowed : Selection} (hs : session.selection? source = some s)
    (h : s.narrow conditions = .ok narrowed) : origin.Holds narrowed.tableName narrowed.ids := by
  rcases map_eq_ok_iff.mp h with ⟨found, hfound, rfl⟩
  exact (hwithin.selections source s hs).subset (Selection.ids_subset_of_matching hfound)

/-- A selection is made from a table or from a selection, and holds what these held. -/
theorem holds_of_made (hwithin : Within origin session) {action : Action} {name : String}
    {made : Selection} (h : session.deed? action = some (.made name made)) :
    origin.Holds made.tableName made.ids := by
  cases action with
  | select table conditions other =>
      cases hs : session.store.select table conditions with
      | error e => simp only [deed?, perform, hs, keepNew, reduceCtorEq] at h
      | ok s =>
          simp only [deed?, perform, hs, keepNew, Option.some.injEq, Deed.made.injEq] at h
          exact h.2 ▸ holds_of_select hwithin hs
  | narrow source conditions other =>
      cases hsource : session.selection? source with
      | none => simp only [deed?, perform, withSelection, hsource, reduceCtorEq] at h
      | some s =>
          cases hs : s.narrow conditions with
          | error e =>
              simp only [deed?, perform, withSelection, hsource, hs, keepNew, reduceCtorEq] at h
          | ok narrowed =>
              simp only [deed?, perform, withSelection, hsource, hs, keepNew, Option.some.injEq,
                Deed.made.injEq] at h
              exact h.2 ▸ holds_of_narrow hwithin hsource hs
  | copy source other =>
      cases hsource : session.selection? source with
      | none => simp only [deed?, perform, withSelection, hsource, reduceCtorEq] at h
      | some s =>
          simp only [deed?, perform, withSelection, hsource, keepNew, Option.some.injEq,
            Deed.made.injEq] at h
          exact h.2 ▸ hwithin.selections source s hsource
  | update source patch =>
      -- The deed of a write is no making.
      cases hreply : (session.perform (.update source patch)).2 with
      | updated rows e =>
          simp only [deed?, hreply] at h
          rcases Option.map_eq_some_iff.mp h with ⟨s, -, heq⟩
          cases heq
      | selected | deleted | dropped | stored | failed | noSelection =>
          simp only [deed?, hreply, reduceCtorEq] at h
  | delete source =>
      cases hreply : (session.perform (.delete source)).2 with
      | deleted count =>
          simp only [deed?, hreply] at h
          rcases Option.map_eq_some_iff.mp h with ⟨s, -, heq⟩
          cases heq
      | selected | updated | dropped | stored | failed | noSelection =>
          simp only [deed?, hreply, reduceCtorEq] at h
  | drop | insertTable | updateRow | deleteRows => simp only [deed?, reduceCtorEq] at h

/-! ## Actions and runs -/

/-- An action through selections brings no id into a session. -/
theorem within_perform (hwithin : Within origin session) {action : Action}
    (h : action.ThroughSelections) : Within origin (session.perform action).1 := by
  have hstep := session.step_perform h
  have hkeeps := keepsIds_of_step hstep
  refine ⟨sound_of_step hwithin.sound hstep, ?_, ?_⟩
  · -- No table gains an id, for a deed takes rows away or keeps the ids.
    intro name t ht
    rw [table?_of_step hwithin.sound hstep] at ht
    rcases Option.map_eq_some_iff.mp ht with ⟨before, hbefore, rfl⟩
    exact (hwithin.tables name before hbefore).subset (before.ids_after_sublist hkeeps).subset
  · intro name s hs
    by_cases hmade : ∃ made, session.deed? action = some (.made name made)
    · -- The selection under the name is the new one.
      rcases hmade with ⟨made, hdeed⟩
      have hkept : (session.perform action).1.selection? name = some made := by
        rw [hdeed] at hstep
        generalize (session.perform action).1 = next at hstep
        cases hstep
        rw [selection?_keep, if_pos rfl]
      rw [hkept] at hs
      exact Option.some.inj hs ▸ holds_of_made hwithin hdeed
    · have hother : ∀ made, session.deed? action ≠ some (.made name made) := fun made heq =>
        hmade ⟨made, heq⟩
      rw [selection?_of_step hwithin.sound hstep hother] at hs
      rcases Option.map_eq_some_iff.mp hs with ⟨before, hbefore, rfl⟩
      exact (hwithin.selections name before hbefore).subset
        (before.ids_after_sublist hkeeps name).subset

theorem within_run (hwithin : Within origin session) {actions : List Action}
    (h : ∀ action ∈ actions, action.ThroughSelections) :
    Within origin (session.run actions) := by
  induction actions generalizing session with
  | nil => exact hwithin
  | cons action rest ih =>
      rw [run_cons]
      exact ih (within_perform hwithin (h action List.mem_cons_self))
        fun a ha => h a (List.mem_cons_of_mem action ha)

/-- The deeds of a run through selections write no ids. -/
theorem keepsIds_history {actions : List Action}
    (h : ∀ action ∈ actions, action.ThroughSelections) :
    ∀ d ∈ session.history actions, d.KeepsIds := by
  induction actions generalizing session with
  | nil => exact fun d hd => absurd hd List.not_mem_nil
  | cons action rest ih =>
      intro d hd
      rw [history, List.mem_append] at hd
      rcases hd with hfirst | hlater
      · exact keepsIds_of_step (session.step_perform (h action List.mem_cons_self)) d hfirst
      · exact ih (fun a ha => h a (List.mem_cons_of_mem action ha)) d hlater

theorem within_ofTables {tables : List Table} (h : ∀ t ∈ tables, t.ids.Nodup) :
    Within (ofTables tables).store (ofTables tables) :=
  ⟨sound_ofTables h, fun _ t ht => ⟨t, ht, List.Subset.refl t.ids⟩, fun _ _ hs => nomatch hs⟩

/-! ## What a deletion takes -/

/-- A deletion through a selection whose table is there succeeds and reports its rows. -/
theorem perform_delete {source : String} {s : Selection} {before : Table}
    (hs : session.selection? source = some s)
    (hbefore : session.store.table? s.tableName = some before) :
    ∃ next, session.perform (.delete source) = (next, .deleted s.rows.length) ∧
      next.store.table? s.tableName = some (before.dropRows s.ids) := by
  rcases Selection.delete_eq_dropRows hbefore with ⟨store, hdelete, htable, -⟩
  refine ⟨({ session with store }).keep source { s with rows := [] }, ?_, htable⟩
  simp only [perform, withSelection, hs, hdelete]

/-- The table loses the rows of the selection that it still has. -/
theorem length_eq_of_delete (hsound : session.Sound) {source : String} {s : Selection}
    {before : Table} (hs : session.selection? source = some s)
    (hbefore : session.store.table? s.tableName = some before) :
    before.rows.length =
      (before.dropRows s.ids).rows.length + (s.ids.filter before.ids.contains).length := by
  have hids : before.ids.Nodup := Store.ids_of_table? hbefore ▸ hsound.tables s.tableName
  rw [← length_filter_contains_comm hids (hsound.selections source s hs)]
  exact before.length_eq_dropRows s.ids

/-- After any run through selections from tables with distinct ids, a deletion succeeds and reports
the rows of its selection. Its table loses those of them that no deed has deleted before, so that
the report is the number of lost rows if and only if no row of the selection was deleted before. -/
theorem delete_count {tables : List Table} {actions : List Action}
    (hids : ∀ t ∈ tables, t.ids.Nodup)
    (hactions : ∀ action ∈ actions, action.ThroughSelections) {source : String} {s : Selection}
    (hs : ((ofTables tables).run actions).selection? source = some s) :
    let gone (id : String) : Bool :=
      ((ofTables tables).history actions).any (Deed.deletes s.tableName id)
    ∃ before after next,
      ((ofTables tables).run actions).store.table? s.tableName = some before ∧
      ((ofTables tables).run actions).perform (.delete source) =
        (next, .deleted s.rows.length) ∧
      next.store.table? s.tableName = some after ∧
      before.rows.length = after.rows.length + (s.ids.filter fun id => !gone id).length ∧
      (before.rows.length = after.rows.length + s.rows.length ↔ ∀ id ∈ s.ids, gone id = false) := by
  intro gone
  have hwithin : Within (ofTables tables).store ((ofTables tables).run actions) :=
    within_run (within_ofTables hids) hactions
  -- The table of the selection was there at the beginning, with all ids of the selection.
  rcases hwithin.selections source s hs with ⟨initial, hinitial, hsubset⟩
  have hname : initial.name = s.tableName := Store.name_of_table? hinitial
  have hbefore : ((ofTables tables).run actions).store.table? s.tableName =
      some (initial.after ((ofTables tables).history actions)) := by
    rw [table?_run (sound_ofTables hids) hactions, hinitial, Option.map_some]
  have hbeforeIds : (initial.after ((ofTables tables).history actions)).ids =
      initial.ids.filter fun id => !gone id := by
    rw [Table.ids_after (keepsIds_history hactions), hname]
  generalize initial.after ((ofTables tables).history actions) = before at hbefore hbeforeIds
  -- So an id of the selection is in the table as long as no deed has deleted it.
  have hkept : s.ids.filter before.ids.contains = s.ids.filter fun id => !gone id := by
    refine List.filter_congr fun id hid => ?_
    rw [Bool.eq_iff_iff, List.contains_iff_mem, hbeforeIds, List.mem_filter]
    exact and_iff_right (hsubset hid)
  have hlost := length_eq_of_delete hwithin.sound hs hbefore
  rw [hkept] at hlost
  rcases perform_delete hs hbefore with ⟨next, hperform, hnext⟩
  refine ⟨before, before.dropRows s.ids, next, hbefore, hperform, hnext, hlost, ?_⟩
  have hrows : s.rows.length = s.ids.length := (List.length_map Row.id).symm
  rw [hlost, hrows, Nat.add_left_cancel_iff, List.length_filter_eq_length_iff]
  simp only [Bool.not_eq_true']

/-- One of three rows was deleted through a narrower selection, and the others are lost now. -/
theorem delete_count_stale :
    let row (id : String) : Row := ⟨[("_id", .string id)]⟩
    let tables : List Table := [⟨"Fruit", [⟨"0000", "Name", .text, none⟩],
      [⟨[("Name", .string "apple"), ("_id", .string "r1")]⟩, row "r2", row "r3"]⟩]
    let actions : List Action :=
      [.select "Fruit" "" "all", .narrow "all" "Name = apple" "apples", .delete "apples"]
    let s : Selection := ⟨"Fruit", [⟨"0000", "Name", .text, none⟩],
      [⟨[("Name", .string "apple"), ("_id", .string "r1")]⟩, row "r2", row "r3"], ""⟩
    (∀ t ∈ tables, t.ids.Nodup) ∧ (∀ action ∈ actions, action.ThroughSelections) ∧
      ((ofTables tables).run actions).selection? "all" = some s ∧
      ∃ before after next,
        ((ofTables tables).run actions).store.table? "Fruit" = some before ∧
        ((ofTables tables).run actions).perform (.delete "all") = (next, .deleted 3) ∧
        next.store.table? "Fruit" = some after ∧ before.rows.length = after.rows.length + 2 := by
  intro row tables actions s
  have hids : ∀ t ∈ tables, t.ids.Nodup := by decide
  have hactions : ∀ action ∈ actions, action.ThroughSelections := by decide
  have hs : ((ofTables tables).run actions).selection? "all" = some s := by decide +kernel
  -- Two of the three ids are still in the table: the narrowed set has deleted one of them.
  have hkept : (s.ids.filter fun id => !((ofTables tables).history actions).any
      (Deed.deletes "Fruit" id)).length = 2 := by decide +kernel
  rcases delete_count hids hactions hs with
    ⟨before, after, next, hbefore, hperform, hafter, hlost, -⟩
  exact ⟨hids, hactions, hs, before, after, next, hbefore, hperform, hafter,
    hkept ▸ hlost⟩

/-- A selection that is deleted through its copy is reported once more, and its table loses
nothing. -/
theorem not_delete_count :
    let tables : List Table :=
      [⟨"Fruit", [], [⟨[("_id", .string "r1")]⟩, ⟨[("_id", .string "r2")]⟩]⟩]
    let actions : List Action := [.select "Fruit" "" "all", .copy "all" "copy", .delete "copy"]
    let session := (ofTables tables).run actions
    (∀ t ∈ tables, t.ids.Nodup) ∧ (∀ action ∈ actions, action.ThroughSelections) ∧
      (session.perform (.delete "all")).2 = .deleted 2 ∧
      (session.perform (.delete "all")).1.store.table? "Fruit" =
        session.store.table? "Fruit" := by
  intro tables actions session
  exact ⟨by decide, by decide, by decide +kernel, by decide +kernel⟩

end Session

end GridQuery
