import MetricLayer.Proofs.Service.Step
import MetricLayer.Proofs.Warehouse.Contents

/-!
# What loads and removals do

A load creates a table with its first rows or adds rows to one.  `Load.Result` lists all that it can
do to the records and to the rows of the physical tables, and `Load.run_result` says that it does
nothing else.  `DropResult` and `dropSource_result` do the same for the removal of a data source.
Whatever depends on loads and removals is derived from these lists.

Batches put together are the rows that were cut into them (`flatten_chunks`), so for a batch size
that is positive all rows are written, in their order (`storedRows_eq`).
-/

namespace MetricLayer

/-- The rows of the physical tables. -/
def World.contents (w : World) : Contents := w.warehouse.contents

/-! ## Writing rows -/

/-- A table to which no rows are added stays what it is. -/
theorem Contents.update_nothing (contents : Contents) (physical : String) :
    Function.update contents physical ((contents physical).map (· ++ [])) = contents := by
  simp only [List.append_nil, Option.map_id', Function.update_eq_self]

theorem chunks_nil {α : Type} (size : Nat) : chunks size ([] : List α) = [] := by
  rw [chunks, dif_pos (.inr rfl)]

/-- Rows that fit into one batch are written in one. -/
theorem chunks_one {α : Type} {size : Nat} {xs : List α} (hsize : 0 < size) (hne : xs ≠ [])
    (hle : xs.length ≤ size) : chunks size xs = [xs] := by
  rw [chunks, dif_neg (by simp [hne]; omega), List.take_of_length_le hle,
    List.drop_eq_nil_of_le hle, chunks_nil]

/-- Rows that fill a batch are written before the rest. -/
theorem chunks_append {α : Type} {size : Nat} {xs : List α} (hsize : 0 < size)
    (hlength : xs.length = size) (ys : List α) : chunks size (xs ++ ys) = xs :: chunks size ys := by
  have hne : xs ≠ [] := by
    intro h
    simp [h] at hlength
    omega
  rw [chunks, dif_neg (by simp [hne]; omega), List.take_left' hlength, List.drop_left' hlength]

theorem flatten_chunks {α : Type} {size : Nat} (hsize : 0 < size) (xs : List α) :
    (chunks size xs).flatten = xs := by
  fun_induction chunks size xs with
  | case1 xs h =>
    rcases h with h | rfl
    · omega
    · rfl
  | case2 xs h ih => rw [List.flatten_cons, ih, List.take_append_drop]

/-- Without a positive size there are no batches. -/
theorem batches_eq_nil {size : Int} (hsize : size ≤ 0) (rows : List Row) :
    batches size rows = [] := by
  rw [batches, chunks, dif_pos (.inl (by omega))]

/-- The rows that are written for `rows`, batch after batch. -/
def storedRows (s : LoadSettings) (schema : Schema) (rows : List Row) : List Row :=
  ((batches s.batchSize rows).map (List.map (conformRow schema))).flatten

/-- With a positive batch size every row is written, in its place. -/
theorem storedRows_eq {s : LoadSettings} (hsize : 0 < s.batchSize) (schema : Schema)
    (rows : List Row) : storedRows s schema rows = rows.map (conformRow schema) := by
  rw [storedRows, ← List.map_flatten, batches, flatten_chunks (by omega)]

namespace Action

/-- What writing the rows `added` into a physical table can do. -/
inductive Wrote (physical : String) (added : List Row) (w : World) : Outcome Unit × World → Prop
  | done {w' : World} (hcatalog : w'.catalog = w.catalog) (hnow : w'.now = w.now)
      (hcontents : w'.contents = Function.update w.contents physical
        ((w.contents physical).map (· ++ added))) : Wrote physical added w (.ok (), w')
  | failed {failure : Failure} {w' : World} (hcatalog : w'.catalog = w.catalog)
      (hfailure : failure.isOfWarehouse = true)
      (hother : ∀ other, other ≠ physical → w'.contents other = w.contents other) :
      Wrote physical added w (.error failure, w')

theorem onCatalog_eq {α : Type} (update : Catalog → Moment → Outcome α × Catalog) (w : World) :
    onCatalog update w
      = ((update w.catalog w.now).1, { w with catalog := (update w.catalog w.now).2 }) := rfl

theorem wrote_nothing (physical : String) (w : World) : Wrote physical [] w (.ok (), w) :=
  .done rfl rfl (w.contents.update_nothing physical).symm

/-- A change of the warehouse is made or refused; the records stay what they were. -/
theorem apply_cases (c : Change) (w : World) :
    (∃ w', onWarehouse (fun w => w.apply c) w = (.ok (), w') ∧ w'.catalog = w.catalog
      ∧ w'.now = w.now
      ∧ w'.contents = Function.update w.contents c.target (c.applied (w.contents c.target)))
    ∨ ∃ failure w', onWarehouse (fun w => w.apply c) w = (.error failure, w')
      ∧ w'.catalog = w.catalog ∧ failure.isOfWarehouse = true ∧ w'.contents = w.contents := by
  have hstep : onWarehouse (fun w => w.apply c) w
      = ((w.warehouse.apply c).1, { w with warehouse := (w.warehouse.apply c).2 }) := rfl
  rcases hrun : w.warehouse.apply c with ⟨failure | _, warehouse⟩
  · rw [hrun] at hstep
    exact .inr ⟨failure, _, hstep, rfl, Warehouse.apply_refused hrun⟩
  · rw [hrun] at hstep
    exact .inl ⟨_, hstep, rfl, rfl, Warehouse.apply_made hrun⟩

theorem insert_wrote (physical : String) (columns : List String) (rows : List Row) (w : World) :
    Wrote physical rows w (onWarehouse (fun w => w.insert physical columns rows) w) := by
  cases rows with
  | nil => exact wrote_nothing physical w
  | cons row rows =>
    rcases apply_cases (.insert physical columns (row :: rows)) w with
      ⟨w', hrun, hcatalog, hnow, hcontents⟩ | ⟨failure, w', hrun, hcatalog, hfailure, hcontents⟩
    · exact hrun ▸ .done hcatalog hnow hcontents
    · exact hrun ▸ .failed hcatalog hfailure fun other _ => congrFun hcontents other

theorem writeBatches_wrote (physical : String) (columns : List String) (batches : List (List Row))
    (w : World) : Wrote physical batches.flatten w (writeBatches physical columns batches w) := by
  induction batches generalizing w with
  | nil => exact wrote_nothing physical w
  | cons batch rest ih =>
    rw [writeBatches]
    have hwrote := insert_wrote physical columns batch w
    generalize hfirst : onWarehouse (fun w => w.insert physical columns batch) w = first at hwrote
    cases hwrote with
    | failed hcatalog hfailure hother =>
      rw [bind_of_error hfirst]
      exact .failed hcatalog hfailure hother
    | @done w' hcatalog hnow hcontents =>
      rw [bind_of_ok hfirst]
      have hrest := ih w'
      generalize writeBatches physical columns rest w' = result at hrest ⊢
      cases hrest with
      | done hcatalog' hnow' hcontents' =>
        refine .done (hcatalog'.trans hcatalog) (hnow'.trans hnow) ?_
        rw [hcontents', hcontents, Function.update_self, Function.update_idem, Option.map_map]
        refine congrArg (Function.update _ _) (congrArg (Option.map · _) (funext fun rows => ?_))
        exact List.append_assoc rows batch rest.flatten
      | failed hcatalog' hfailure hother =>
        refine .failed (hcatalog'.trans hcatalog) hfailure fun other hne => ?_
        rw [hother other hne, hcontents, Function.update_of_ne hne]

theorem writeRows_wrote (s : LoadSettings) (physical : String) (schema : Schema) (rows : List Row)
    (w : World) :
    Wrote physical (storedRows s schema rows) w (writeRows s physical schema rows w) := by
  unfold writeRows
  rcases requireBatches_cases s rows w with ⟨-, herror⟩ | ⟨-, hok⟩
  · rw [bind_of_error herror]
    exact .failed rfl rfl fun _ _ => rfl
  · rw [bind_of_ok hok]
    exact writeBatches_wrote _ _ _ w

/-- Without rows a new table is created and recorded. -/
theorem loadNew_nil (s : LoadSettings) (sourceId name : String) (schema : Schema) :
    loadNew s sourceId name schema [] = (do
      let physical := physicalNameFor sourceId name
      onWarehouse fun w => w.apply (.create physical schema.columns schema.primaryKeys)
      onCatalog fun c now => c.putTable now sourceId name physical schema 0) := by
  unfold loadNew writeRows requireBatches batches
  rw [if_neg fun h => h.2 rfl, chunks_nil]
  rfl

/-- The rows of a new table that fit into one batch are inserted at once. -/
theorem loadNew_one {s : LoadSettings} {rows : List Row} (hne : rows ≠ [])
    (hle : rows.length ≤ s.batchSize) (sourceId name : String) (schema : Schema) :
    loadNew s sourceId name schema rows = (do
      let physical := physicalNameFor sourceId name
      onWarehouse fun w => w.apply (.create physical schema.columns schema.primaryKeys)
      onWarehouse fun w => w.insert physical schema.columnNames (rows.map (conformRow schema))
      onCatalog fun c now => c.putTable now sourceId name physical schema rows.length) := by
  have hlength := List.length_pos_of_ne_nil hne
  have hbatches : batches s.batchSize rows = [rows] := by
    rw [batches, chunks_one (by omega) hne (by omega)]
  unfold loadNew
  dsimp only
  rw [writeRows_eq (by omega), hbatches]
  simp only [List.map_cons, List.map_nil, writeBatches, bind_assoc, pure_bind]

end Action

/-! ## Loads -/

/-- A call that loads rows. -/
inductive Load where
  /-- Creates a table with its first rows, or adds them to the table of that schema. -/
  | create (sourceId name : String) (schema : Schema) (rows : List Row)
  /-- Adds rows to a table. -/
  | append (sourceId name : String) (rows : List Row)

namespace Load

/-- The data source of the table. -/
def sourceId : Load → String
  | create sourceId _ _ _ => sourceId
  | append sourceId _ _ => sourceId

/-- The name of the table. -/
def name : Load → String
  | create _ name _ _ => name
  | append _ name _ => name

/-- The rows to be loaded. -/
def rows : Load → List Row
  | create _ _ _ rows => rows
  | append _ _ rows => rows

/-- Makes the call. -/
def run (s : LoadSettings) : Load → Action DataTable
  | create sourceId name schema rows => Action.createTable s sourceId name schema rows
  | append sourceId name rows => Action.append s sourceId name rows

/-- The record of a table after the rows were added. -/
def grownTable (l : Load) (t : DataTable) (now : Moment) : DataTable :=
  { t with rowCount := t.rowCount + l.rows.length, updatedAt := now }

/-- The record of a new table. -/
def newTable (l : Load) (c : Catalog) (now : Moment) (schema : Schema) : DataTable :=
  ⟨c.nextId, l.sourceId, l.name, physicalNameFor l.sourceId l.name, schema, l.rows.length, now, now⟩

/-- All that a load can do. -/
inductive Result (s : LoadSettings) (l : Load) (w : World) : Outcome DataTable × World → Prop
  /-- It fails before anything is done. -/
  | refused (failure : Failure) : Result s l w (.error failure, w)
  /-- There are no rows to add to the table. -/
  | nothing {t : DataTable} (ht : w.catalog.table? l.sourceId l.name = some t)
      (hrows : l.rows = []) : Result s l w (.ok t, w)
  /-- The warehouse fails on rows for a table. -/
  | brokenOff {t : DataTable} {failure : Failure} {w' : World}
      (ht : w.catalog.table? l.sourceId l.name = some t) (hcatalog : w'.catalog = w.catalog)
      (hfailure : failure.isOfWarehouse = true)
      (hother : ∀ other, other ≠ t.physicalName → w'.contents other = w.contents other) :
      Result s l w (.error failure, w')
  /-- The rows are added to the table. -/
  | grown {t : DataTable} {w' : World} (ht : w.catalog.table? l.sourceId l.name = some t)
      (hcatalog : w'.catalog
        = w.catalog.replaceTable (l.grownTable t w.now))
      (hcontents : w'.contents = Function.update w.contents t.physicalName
        ((w.contents t.physicalName).map (· ++ storedRows s t.schema l.rows))) :
      Result s l w (.ok (l.grownTable t w.now), w')
  /-- The warehouse fails on a new table or its rows. -/
  | stillborn {schema : Schema} {failure : Failure} {w' : World}
      (hl : l = .create l.sourceId l.name schema l.rows)
      (hnone : w.catalog.table? l.sourceId l.name = none) (hcatalog : w'.catalog = w.catalog)
      (hfailure : failure.isOfWarehouse = true)
      (hother : ∀ other, other ≠ physicalNameFor l.sourceId l.name →
        w'.contents other = w.contents other) :
      Result s l w (.error failure, w')
  /-- The rows of a new table are written, but its physical name belongs to another table. -/
  | collided {schema : Schema} {w' : World} (hl : l = .create l.sourceId l.name schema l.rows)
      (hnone : w.catalog.table? l.sourceId l.name = none)
      (htaken : ∃ t ∈ w.catalog.tables, t.physicalName = physicalNameFor l.sourceId l.name)
      (hcatalog : w'.catalog = w.catalog.issue)
      (hcontents : w'.contents = Function.update w.contents (physicalNameFor l.sourceId l.name)
        (some ((w.contents (physicalNameFor l.sourceId l.name)).getD []
          ++ storedRows s schema l.rows))) :
      Result s l w (.error .duplicateRecord, w')
  /-- A new table is created with its rows. -/
  | created {schema : Schema} {w' : World} (hl : l = .create l.sourceId l.name schema l.rows)
      (hnone : w.catalog.table? l.sourceId l.name = none)
      (hfree : ∀ t ∈ w.catalog.tables, t.physicalName ≠ physicalNameFor l.sourceId l.name)
      (hcatalog : w'.catalog = { w.catalog.issue with
        tables := w.catalog.tables
          ++ [l.newTable w.catalog w.now schema] })
      (hcontents : w'.contents = Function.update w.contents (physicalNameFor l.sourceId l.name)
        (some ((w.contents (physicalNameFor l.sourceId l.name)).getD []
          ++ storedRows s schema l.rows))) :
      Result s l w
        (.ok (l.newTable w.catalog w.now schema), w')

theorem extend_result (s : LoadSettings) (l : Load) {w : World} (hw : w.catalog.Consistent)
    {t : DataTable} (ht : w.catalog.table? l.sourceId l.name = some t) :
    l.Result s w (Action.extend s t l.rows w) := by
  unfold Action.extend
  split
  · next hrows => exact .nothing ht (List.isEmpty_iff.1 hrows)
  · have hwrote := Action.writeRows_wrote s t.physicalName t.schema l.rows w
    generalize hfirst : Action.writeRows s t.physicalName t.schema l.rows w = first at hwrote
    cases hwrote with
    | failed hcatalog hfailure hother =>
      rw [Action.bind_of_error hfirst]
      exact .brokenOff ht hcatalog hfailure hother
    | @done w' hcatalog hnow hcontents =>
      rw [Action.bind_of_ok hfirst]
      have hadd : w.catalog.addRows w.now t.id l.rows.length
          = (.ok (l.grownTable t w.now),
            w.catalog.replaceTable (l.grownTable t w.now)) := by
        unfold Catalog.addRows
        rw [hw.find?_id (Catalog.table?_eq_some ht).1]
        rfl
      rw [Action.onCatalog_eq, hcatalog, hnow, hadd]
      exact .grown ht rfl hcontents

theorem loadNew_result (s : LoadSettings) {sourceId name : String} (schema : Schema)
    (rows : List Row) {w : World} (hnone : w.catalog.table? sourceId name = none) :
    (create sourceId name schema rows).Result s w
      (Action.loadNew s sourceId name schema rows w) := by
  unfold Action.loadNew
  generalize hphysical : physicalNameFor sourceId name = physical
  rcases Action.apply_cases (.create physical schema.columns schema.primaryKeys) w with
    ⟨w₁, hrun, hcatalog₁, hnow₁, hcontents₁⟩ | ⟨failure, w₁, hrun, hcatalog₁, hfailure, hcontents₁⟩
  · rw [Action.bind_of_ok hrun]
    have hwrote := Action.writeRows_wrote s physical schema rows w₁
    generalize hfirst : Action.writeRows s physical schema rows w₁ = first at hwrote
    cases hwrote with
    | failed hcatalog hfailure hother =>
      rw [Action.bind_of_error hfirst]
      refine .stillborn rfl hnone (hcatalog.trans hcatalog₁) hfailure fun other hne => ?_
      rw [hother other (hphysical ▸ hne), hcontents₁]
      exact Function.update_of_ne (hphysical ▸ hne) _ _
    | @done w₂ hcatalog hnow hcontents =>
      rw [Action.bind_of_ok hfirst]
      have hcreated : w₁.contents
          = Function.update w.contents physical (some ((w.contents physical).getD [])) :=
        hcontents₁
      rw [hcreated, Function.update_self, Function.update_idem] at hcontents
      have hput : w.catalog.putTable w.now sourceId name physical schema rows.length
          = w.catalog.insertTable w.now sourceId name physical schema rows.length := by
        unfold Catalog.putTable
        rw [hnone]
      rw [Action.onCatalog_eq, hcatalog, hnow, hcatalog₁, hnow₁, hput]
      subst hphysical
      by_cases htaken : w.catalog.tables.any (·.physicalName = physicalNameFor sourceId name)
      · rw [Catalog.insertTable, if_pos htaken]
        obtain ⟨t, ht, hname⟩ := List.any_eq_true.1 htaken
        exact .collided rfl hnone ⟨t, ht, of_decide_eq_true hname⟩ rfl hcontents
      · rw [Catalog.insertTable, if_neg htaken]
        refine .created rfl hnone (fun t ht hname => htaken ?_) rfl hcontents
        exact List.any_eq_true.2 ⟨t, ht, decide_eq_true hname⟩
  · rw [Action.bind_of_error hrun]
    exact .stillborn rfl hnone hcatalog₁ hfailure fun other _ => congrFun hcontents₁ other

/-- A load does nothing but what is listed. -/
theorem run_result (s : LoadSettings) (l : Load) {w : World} (hw : w.catalog.Consistent) :
    l.Result s w (l.run s w) := by
  cases l with
  | create sourceId name schema rows =>
    rw [run]
    rcases Action.createTable_cases s sourceId name schema rows w with
      ⟨-, failure, h⟩ | ⟨t, ht, -, h⟩ | ⟨hnone, h⟩ <;> rw [h]
    · exact .refused _
    · exact extend_result s (.create sourceId name schema rows) hw ht
    · exact loadNew_result s schema rows hnone
  | append sourceId name rows =>
    rw [run]
    rcases Action.append_cases s sourceId name rows w with ⟨failure, h⟩ | ⟨t, ht, h⟩ <;> rw [h]
    · exact .refused _
    · exact extend_result s (.append sourceId name rows) hw ht

end Load

/-! ## Removals -/

/-- The contents without the physical tables of some records. -/
def Contents.without (contents : Contents) (tables : List DataTable) : Contents := fun physical =>
  if physical ∈ tables.map DataTable.physicalName then none else contents physical

namespace Action

theorem dropTables_cases (tables : List DataTable) (w : World) :
    (∃ w', dropTables tables w = (.ok (), w') ∧ w'.catalog = w.catalog
      ∧ w'.contents = w.contents.without tables)
    ∨ ∃ failure w', dropTables tables w = (.error failure, w') ∧ w'.catalog = w.catalog
      ∧ failure.isOfWarehouse = true
      ∧ ∀ other, other ∉ tables.map DataTable.physicalName →
        w'.contents other = w.contents other := by
  induction tables generalizing w with
  | nil => exact .inl ⟨w, rfl, rfl, rfl⟩
  | cons t rest ih =>
    rw [dropTables]
    rcases apply_cases (.drop t.physicalName) w with
      ⟨w₁, hrun, hcatalog, -, hcontents⟩ | ⟨failure, w₁, hrun, hcatalog, hfailure, hcontents⟩
    · rw [bind_of_ok hrun]
      have hdropped : ∀ other, other ≠ t.physicalName → w₁.contents other = w.contents other := by
        intro other hne
        rw [hcontents]
        exact Function.update_of_ne hne _ _
      rcases ih w₁ with ⟨w₂, hrest, hcatalog', hcontents'⟩ |
        ⟨failure, w₂, hrest, hcatalog', hfailure, hother⟩
      · refine .inl ⟨w₂, hrest, hcatalog'.trans hcatalog, ?_⟩
        rw [hcontents']
        funext other
        by_cases hne : other = t.physicalName
        · have hgone : w₁.contents other = none := by
            rw [hcontents, hne]
            exact Function.update_self _ _ _
          simp [Contents.without, hne ▸ hgone, hne]
        · simp [Contents.without, hdropped other hne, hne]
      · refine .inr ⟨failure, w₂, hrest, hcatalog'.trans hcatalog, hfailure, fun other hnot => ?_⟩
        rw [List.map_cons, List.mem_cons, not_or] at hnot
        rw [hother other hnot.2, hdropped other hnot.1]
    · rw [bind_of_error hrun]
      exact .inr ⟨failure, w₁, rfl, hcatalog, hfailure, fun other _ => congrFun hcontents other⟩

end Action

/-- All that the removal of a data source can do. -/
inductive DropResult (id : String) (w : World) : Outcome Unit × World → Prop
  /-- There is no such source. -/
  | refused (failure : Failure) : DropResult id w (.error failure, w)
  /-- The warehouse fails on a table of the source. -/
  | brokenOff {failure : Failure} {w' : World} (hcatalog : w'.catalog = w.catalog)
      (hfailure : failure.isOfWarehouse = true)
      (hother : ∀ other, other ∉ (w.catalog.tablesOf id).map DataTable.physicalName →
        w'.contents other = w.contents other) : DropResult id w (.error failure, w')
  /-- The source goes with its tables. -/
  | dropped {w' : World} (hsource : (w.catalog.source? id).isSome)
      (hcatalog : w'.catalog = (w.catalog.deleteSource id).2)
      (hcontents : w'.contents = w.contents.without (w.catalog.tablesOf id)) :
      DropResult id w (.ok (), w')

/-- The removal of a data source does nothing but what is listed. -/
theorem dropSource_result (id : String) (w : World) :
    DropResult id w (Action.dropSource id w) := by
  rcases Action.dropSource_cases id w with ⟨-, h⟩ | ⟨source, hsource, h⟩ <;> rw [h]
  · exact .refused _
  · rcases Action.dropTables_cases (w.catalog.tablesOf id) w with
      ⟨w', hrun, hcatalog, hcontents⟩ | ⟨failure, w', hrun, hcatalog, hfailure, hother⟩
    · have hdelete : (w.catalog.deleteSource id).1 = .ok () := by
        rw [Catalog.deleteSource, hsource]
      rw [Action.bind_of_ok hrun, Action.onCatalog_eq, hcatalog, hdelete]
      exact .dropped (by rw [hsource]; rfl) rfl hcontents
    · rw [Action.bind_of_error hrun]
      exact .brokenOff hcatalog hfailure hother

end MetricLayer
