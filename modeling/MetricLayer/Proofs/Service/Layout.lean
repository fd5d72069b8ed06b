import MetricLayer.Proofs.Dataset.StoredText
import MetricLayer.Proofs.Service.Load
import MetricLayer.Proofs.Warehouse.Layout

/-!
# What calls do to the physical tables

A load creates the physical table of a table without a record, or leaves all of them as they are
(`Load.Lays`, `Load.run_lays`).  The removal of a data source drops its tables in the order of their
records, up to the statement that fails (`Removal`, `dropSource_removal`).  Rows are of no concern
here; `Load.Result` and `DropResult` list what the same calls do to them and to the records.
-/

namespace MetricLayer

/-- The layouts of the physical tables. -/
def World.layouts (w : World) : Layouts := w.warehouse.layouts

/-- The physical tables are the same, with the same columns. -/
def World.SameLayouts (w w' : World) : Prop := w'.layouts = w.layouts

instance : Std.Refl World.SameLayouts := ⟨fun _ => rfl⟩

instance : IsTrans World World.SameLayouts := ⟨fun _ _ _ h h' => h'.trans h⟩

namespace Action

/-- A change of the warehouse is made or refused, and then it has no effect. -/
theorem apply_layouts (c : Change) (w : World) :
    (∃ w', onWarehouse (fun w => w.apply c) w = (.ok (), w') ∧ w'.catalog = w.catalog
      ∧ w'.layouts = c.layouts w.layouts)
    ∨ ∃ failure w', onWarehouse (fun w => w.apply c) w = (.error failure, w')
      ∧ w'.catalog = w.catalog ∧ w'.layouts = w.layouts := by
  have hstep : onWarehouse (fun w => w.apply c) w
      = ((w.warehouse.apply c).1, { w with warehouse := (w.warehouse.apply c).2 }) := rfl
  rcases hrun : w.warehouse.apply c with ⟨failure | _, warehouse⟩
  · rw [hrun] at hstep
    exact .inr ⟨failure, _, hstep, rfl,
      Warehouse.layouts_of_changes (Warehouse.changes_refused hrun)⟩
  · rw [hrun] at hstep
    exact .inl ⟨_, hstep, rfl, Warehouse.layouts_of_change (Warehouse.changes_made hrun)⟩

theorem insert_layouts (physical : String) (columns : List String) (rows : List Row) :
    Keeps World.SameLayouts (onWarehouse fun w => w.insert physical columns rows) := by
  cases rows with
  | nil => exact .of_same fun _ => rfl
  | cons row rows =>
    intro w
    have hrun : onWarehouse (fun w => w.insert physical columns (row :: rows)) w
        = onWarehouse (fun w => w.apply (.insert physical columns (row :: rows))) w := rfl
    rcases apply_layouts (.insert physical columns (row :: rows)) w with
      ⟨w', h, -, hlayouts⟩ | ⟨failure, w', h, -, hlayouts⟩ <;> rw [hrun, h]
    · exact hlayouts.trans (Change.layouts_insert _ _ _ _)
    · exact hlayouts

theorem onCatalog_layouts {α : Type} (update : Catalog → Moment → Outcome α × Catalog) :
    Keeps World.SameLayouts (onCatalog update) := fun _ => rfl

theorem extend_layouts (s : LoadSettings) (t : DataTable) (rows : List Row) :
    Keeps World.SameLayouts (extend s t rows) :=
  .extend insert_layouts s t rows (onCatalog_layouts _)

/-- A new table is created in the warehouse unless that fails. -/
theorem loadNew_layouts (s : LoadSettings) (sourceId name : String) (schema : Schema)
    (rows : List Row) (w : World) :
    ((∃ failure, (loadNew s sourceId name schema rows w).1 = .error failure)
      ∧ (loadNew s sourceId name schema rows w).2.layouts = w.layouts)
    ∨ (loadNew s sourceId name schema rows w).2.layouts
      = (Change.create (physicalNameFor sourceId name) schema.columns schema.primaryKeys).layouts
        w.layouts := by
  unfold loadNew
  rcases apply_layouts (.create (physicalNameFor sourceId name) schema.columns schema.primaryKeys) w
    with ⟨w', h, -, hlayouts⟩ | ⟨failure, w', h, -, hlayouts⟩
  · rw [bind_of_ok h, ← hlayouts]
    exact .inr (Keeps.bind (.writeRows insert_layouts _ _ _ _) (fun _ => onCatalog_layouts _) w')
  · rw [bind_of_error h]
    exact .inl ⟨⟨failure, rfl⟩, hlayouts⟩

end Action

namespace Load

/-- The creation of the physical table of a load. -/
def creation (l : Load) (schema : Schema) : Change :=
  .create (physicalNameFor l.sourceId l.name) schema.columns schema.primaryKeys

/-- What a load can do to the layouts. -/
inductive Lays (l : Load) (w : World) (result : Outcome DataTable × World) : Prop
  /-- Nothing: the table has a record, or the load fails. -/
  | nothing (hreason : (∃ t, w.catalog.table? l.sourceId l.name = some t)
      ∨ ∃ failure, result.1 = .error failure) (hlayouts : result.2.layouts = w.layouts)
  /-- It creates the physical table of a table without a record. -/
  | creates {schema : Schema} (hl : l = .create l.sourceId l.name schema l.rows)
      (hnone : w.catalog.table? l.sourceId l.name = none)
      (hlayouts : result.2.layouts = (l.creation schema).layouts w.layouts)

theorem run_lays (s : LoadSettings) (l : Load) (w : World) : l.Lays w (l.run s w) := by
  cases l with
  | create sourceId name schema rows =>
    rw [run]
    rcases Action.createTable_cases s sourceId name schema rows w with
      ⟨-, failure, h⟩ | ⟨t, ht, -, h⟩ | ⟨hnone, h⟩ <;> rw [h]
    · exact .nothing (.inr ⟨failure, rfl⟩) rfl
    · exact .nothing (.inl ⟨t, ht⟩) (Action.extend_layouts s t rows w)
    · rcases Action.loadNew_layouts s sourceId name schema rows w with ⟨hfailed, hsame⟩ | hcreated
      · exact .nothing (.inr hfailed) hsame
      · exact .creates rfl hnone hcreated
  | append sourceId name rows =>
    rw [run]
    rcases Action.append_cases s sourceId name rows w with ⟨failure, h⟩ | ⟨t, ht, h⟩ <;> rw [h]
    · exact .nothing (.inr ⟨failure, rfl⟩) rfl
    · exact .nothing (.inl ⟨t, ht⟩) (Action.extend_layouts s t rows w)

end Load

/-! ## Removals -/

/-- The layouts without the physical tables of some records. -/
def Layouts.without (layouts : Layouts) (tables : List DataTable) : Layouts := fun physical =>
  if physical ∈ tables.map DataTable.physicalName then none else layouts physical

theorem Layouts.without_nil (layouts : Layouts) : layouts.without [] = layouts := by
  funext physical
  exact if_neg List.not_mem_nil

theorem Layouts.without_cons (layouts : Layouts) (t : DataTable) (tables : List DataTable) :
    layouts.without (t :: tables)
      = ((Change.drop t.physicalName).layouts layouts).without tables := by
  funext physical
  rw [without, without, List.map_cons, Change.layouts, Change.target, Change.laidOut]
  by_cases hrest : physical ∈ tables.map DataTable.physicalName
  · rw [if_pos (List.mem_cons_of_mem _ hrest), if_pos hrest]
  · rw [if_neg hrest]
    by_cases hown : physical = t.physicalName
    · rw [hown, if_pos List.mem_cons_self, Function.update_self]
    · rw [if_neg (List.not_mem_cons_of_ne_of_not_mem hown hrest), Function.update_of_ne hown]

namespace Action

/-- The removal of a physical table fails exactly if it is the statement that is to fail next. -/
theorem drop_layouts {physical : String} (hname : IsSqlName physical) (w : World) :
    (w.warehouse.faultIn = 1
      ∧ ∃ w', onWarehouse (fun w => w.apply (.drop physical)) w = (.error .simulated, w')
        ∧ w'.layouts = w.layouts)
    ∨ (w.warehouse.faultIn ≠ 1
      ∧ ∃ w', onWarehouse (fun w => w.apply (.drop physical)) w = (.ok (), w')
        ∧ w'.layouts = (Change.drop physical).layouts w.layouts
        ∧ w'.warehouse.faultIn = w.warehouse.faultIn - 1) := by
  obtain ⟨table, htable⟩ := succeeds_sqlName.2 hname
  have hrender : (Change.drop physical).render = .ok ("DROP TABLE IF EXISTS " ++ table) := by
    rw [Change.render, dropStatement, htable]
    rfl
  have hstep : onWarehouse (fun w => w.apply (.drop physical)) w
      = ((w.warehouse.apply (.drop physical)).1,
        { w with warehouse := (w.warehouse.apply (.drop physical)).2 }) := rfl
  have hwritten := Warehouse.apply_written (w := w.warehouse) hrender
  rw [hstep]
  generalize hrun : w.warehouse.apply (.drop physical) = result at hwritten ⊢
  obtain ⟨outcome, warehouse⟩ := result
  rcases hwritten with ⟨hfault, rfl⟩ | ⟨hfault, rfl, hlater⟩
  · exact .inl ⟨hfault, _, rfl, Warehouse.layouts_of_changes (Warehouse.changes_refused hrun)⟩
  · exact .inr ⟨hfault, _, rfl, Warehouse.layouts_of_change (Warehouse.changes_made hrun), hlater⟩

/-- Tables are dropped one after another up to the statement that fails. -/
theorem dropTables_layouts {tables : List DataTable}
    (hnames : ∀ t ∈ tables, IsSqlName t.physicalName) (w : World) :
    ((0 < w.warehouse.faultIn ∧ w.warehouse.faultIn ≤ tables.length)
      ∧ (dropTables tables w).1 = .error .simulated
      ∧ (dropTables tables w).2.layouts
        = w.layouts.without (tables.take (w.warehouse.faultIn - 1)))
    ∨ (¬(0 < w.warehouse.faultIn ∧ w.warehouse.faultIn ≤ tables.length)
      ∧ (dropTables tables w).1 = .ok ()
      ∧ (dropTables tables w).2.layouts = w.layouts.without tables) := by
  induction tables generalizing w with
  | nil =>
    refine .inr ⟨fun h => ?_, rfl, (Layouts.without_nil _).symm⟩
    rw [List.length_nil] at h
    omega
  | cons t rest ih =>
    rw [dropTables]
    rcases drop_layouts (hnames t List.mem_cons_self) w with
      ⟨hfault, w₁, hrun, hlayouts⟩ | ⟨hfault, w₁, hrun, hlayouts, hlater⟩
    · rw [bind_of_error hrun, hfault]
      refine .inl ⟨⟨by decide, Nat.succ_le_succ (Nat.zero_le _)⟩, rfl, ?_⟩
      rw [hlayouts]
      exact (Layouts.without_nil _).symm
    · have hlength : (t :: rest).length = rest.length + 1 := List.length_cons
      rw [bind_of_ok hrun]
      rcases ih (fun u hu => hnames u (List.mem_cons_of_mem t hu)) w₁ with
        ⟨hstop, herror, hrest⟩ | ⟨hgo, hok, hrest⟩ <;>
        rw [hlayouts] at hrest
      · rw [hlater] at hstop hrest
        refine .inl ⟨by omega, herror, ?_⟩
        obtain ⟨k, hk⟩ : ∃ k, w.warehouse.faultIn - 1 = k + 1 :=
          ⟨_, (Nat.succ_pred_eq_of_pos hstop.1).symm⟩
        rw [hrest, hk, List.take_succ_cons, Layouts.without_cons]
        rfl
      · rw [hlater] at hgo
        refine .inr ⟨by omega, hok, ?_⟩
        rw [hrest, Layouts.without_cons]

end Action

theorem Catalog.deleteSource_ok {c : Catalog} {id : String} (hsource : (c.source? id).isSome) :
    (c.deleteSource id).1 = .ok () := by
  obtain ⟨source, hfound⟩ := Option.isSome_iff_exists.1 hsource
  rw [deleteSource, hfound]

/-- The tables that remain when a source is removed. -/
theorem Catalog.mem_tables_deleteSource {c : Catalog} {id : String}
    (hsource : (c.source? id).isSome) {t : DataTable} :
    t ∈ (c.deleteSource id).2.tables ↔ t ∈ c.tables ∧ t ∉ c.tablesOf id := by
  obtain ⟨source, hfound⟩ := Option.isSome_iff_exists.1 hsource
  rw [deleteSource, hfound, tablesOf, List.mem_filter, List.mem_filter, decide_eq_true_eq,
    decide_eq_true_eq]
  exact and_congr_right fun ht => (not_congr (and_iff_right ht)).symm

/-- All that the removal of a data source can do to the records and the physical tables. -/
inductive Removal (id : String) (w : World) : Outcome Unit × World → Prop
  /-- There is no such source. -/
  | refused (hnone : w.catalog.source? id = none) :
      Removal id w (.error (.sourceNotFound id), w)
  /-- A statement fails; the tables before it are dropped, and all records stay. -/
  | stopped {w' : World} (hsource : (w.catalog.source? id).isSome)
      (hfault : 0 < w.warehouse.faultIn ∧ w.warehouse.faultIn ≤ (w.catalog.tablesOf id).length)
      (hcatalog : w'.catalog = w.catalog)
      (hlayouts : w'.layouts
        = w.layouts.without ((w.catalog.tablesOf id).take (w.warehouse.faultIn - 1))) :
      Removal id w (.error .simulated, w')
  /-- The source goes with its tables. -/
  | done {w' : World} (hsource : (w.catalog.source? id).isSome)
      (hfault : ¬(0 < w.warehouse.faultIn
        ∧ w.warehouse.faultIn ≤ (w.catalog.tablesOf id).length))
      (hcatalog : w'.catalog = (w.catalog.deleteSource id).2)
      (hlayouts : w'.layouts = w.layouts.without (w.catalog.tablesOf id)) :
      Removal id w (.ok (), w')

/-- The removal of a data source whose tables have proper names does nothing but what is listed. -/
theorem dropSource_removal {id : String} {w : World}
    (hnames : ∀ t ∈ w.catalog.tables, IsSqlName t.physicalName) :
    Removal id w (Action.dropSource id w) := by
  rcases Action.dropSource_cases id w with ⟨hnone, h⟩ | ⟨source, hfound, h⟩ <;> rw [h]
  · exact .refused hnone
  · have hsource : (w.catalog.source? id).isSome := by
      rw [hfound]
      rfl
    have howned : ∀ t ∈ w.catalog.tablesOf id, IsSqlName t.physicalName :=
      fun t ht => hnames t (List.mem_of_mem_filter ht)
    have hlayouts := Action.dropTables_layouts howned w
    rcases Action.dropTables_cases (w.catalog.tablesOf id) w with
      ⟨w', hrun, hcatalog, -⟩ | ⟨failure, w', hrun, hcatalog, -⟩ <;> rw [hrun] at hlayouts
    · rcases hlayouts with ⟨-, herror, -⟩ | ⟨hfault, -, hlayouts⟩
      · cases herror
      · rw [Action.bind_of_ok hrun, Action.onCatalog_eq, hcatalog, Catalog.deleteSource_ok hsource]
        exact .done hsource hfault rfl hlayouts
    · rcases hlayouts with ⟨hfault, herror, hlayouts⟩ | ⟨-, hok, -⟩
      · cases herror
        rw [Action.bind_of_error hrun]
        exact .stopped hsource hfault hcatalog hlayouts
      · cases hok

end MetricLayer
