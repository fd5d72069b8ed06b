import MetricLayer.Proofs.Service.Described

/-!
# Records of tables that are gone

A record is of use as long as its physical table exists (`World.HasTable`).  The removal of a data
source drops the tables of the source one by one, each in a transaction of its own, and removes the
records only after the last of them.  So when the warehouse fails on the second table or a later
one, the records of the tables before it are left without a table: `dropSource_whole_iff` says which
records these are, for every state that calls can lead to and for every statement that may fail.
-/

namespace MetricLayer

/-- The physical table of the record exists. -/
def World.HasTable (w : World) (t : DataTable) : Prop := (w.layouts t.physicalName).isSome

/-- Every record has its physical table. -/
def World.Whole (w : World) : Prop := ∀ t ∈ w.catalog.tables, w.HasTable t

variable {s : LoadSettings} {start w w' : World} {events : List ManagerEvent} {id : String}

/-- Without the physical tables of some records, these records have none and the others keep
theirs. -/
theorem Described.hasTable_without (h : Described events w) {tables : List DataTable}
    (htables : ∀ t ∈ tables, t ∈ w.catalog.tables)
    (hlayouts : w'.layouts = w.layouts.without tables) {t : DataTable}
    (ht : t ∈ w.catalog.tables) :
    w'.HasTable t ↔ w.HasTable t ∧ t ∉ tables := by
  rw [World.HasTable, World.HasTable, hlayouts, Layouts.without]
  split
  · next hname =>
    have hdropped := h.mem_of_physicalName htables ht hname
    exact iff_of_false Bool.false_ne_true fun hkept => hkept.2 hdropped
  · next hname =>
    have hkept : t ∉ tables := fun hmem => hname (List.mem_map_of_mem hmem)
    exact (and_iff_left hkept).symm

/-- What a removal in which a statement fails leaves of the tables. -/
theorem Described.whole_without (h : Described events w) {tables : List DataTable}
    (htables : ∀ t ∈ tables, t ∈ w.catalog.tables) (hcatalog : w'.catalog = w.catalog)
    (hlayouts : w'.layouts = w.layouts.without tables) (hwhole : w.Whole) :
    w'.Whole ↔ tables = [] := by
  have hkept : ∀ t ∈ w.catalog.tables, w'.HasTable t ↔ t ∉ tables := fun t ht =>
    (h.hasTable_without htables hlayouts ht).trans (and_iff_right (hwhole t ht))
  rw [World.Whole, hcatalog, List.eq_nil_iff_forall_not_mem]
  constructor
  · intro hafter t ht
    exact (hkept t (htables t ht)).1 (hafter t (htables t ht)) ht
  · intro hnone t ht
    exact (hkept t ht).2 (hnone t)

/-- A removal that succeeds leaves the records of other sources, each with its table if it had
one. -/
theorem Described.hasTable_removed (h : Described events w)
    (hsource : (w.catalog.source? id).isSome)
    (hcatalog : w'.catalog = (w.catalog.deleteSource id).2)
    (hlayouts : w'.layouts = w.layouts.without (w.catalog.tablesOf id)) {t : DataTable}
    (ht : t ∈ w'.catalog.tables) :
    t ∈ w.catalog.tables ∧ t ∉ w.catalog.tablesOf id ∧ (w'.HasTable t ↔ w.HasTable t) := by
  obtain ⟨hold, hother⟩ := (Catalog.mem_tables_deleteSource hsource).1 (hcatalog ▸ ht)
  have hown : ∀ u ∈ w.catalog.tablesOf id, u ∈ w.catalog.tables :=
    fun u hu => List.mem_of_mem_filter hu
  exact ⟨hold, hother, (h.hasTable_without hown hlayouts hold).trans (and_iff_left hother)⟩

/-- The removal of a data source, in any state that calls can lead to and with any statement
failing.  It fails exactly if one of its statements is the one that is to fail; then all records
stay, and those of the tables before that statement have lost their physical table.  So records that
all had their tables still have them exactly if there is no such source, or if the first statement
fails or none does. -/
theorem dropSource_whole_iff (htables : start.catalog.tables = [])
    (hclean : ∀ physical, start.layouts physical = none) (h : TableRun s start events w)
    (id : String) :
    (w.catalog.source? id = none → Action.dropSource id w = (.error (.sourceNotFound id), w))
    ∧ ((w.catalog.source? id).isSome →
      ((Action.dropSource id w).1, (Action.dropSource id w).2.catalog)
          = (if 0 < w.warehouse.faultIn ∧ w.warehouse.faultIn ≤ (w.catalog.tablesOf id).length
            then (.error .simulated, w.catalog) else w.catalog.deleteSource id)
      ∧ ∀ t ∈ (Action.dropSource id w).2.catalog.tables, (Action.dropSource id w).2.HasTable t
        ↔ w.HasTable t ∧ t ∉ (w.catalog.tablesOf id).take (w.warehouse.faultIn - 1))
    ∧ (w.Whole → ((Action.dropSource id w).2.Whole ↔ w.catalog.source? id = none
      ∨ w.warehouse.faultIn ≤ 1 ∨ (w.catalog.tablesOf id).length < w.warehouse.faultIn)) := by
  have hdescribed := h.described htables hclean
  have hresult : Removal id w _ := dropSource_removal hdescribed.isSqlName
  generalize Action.dropSource id w = result at hresult ⊢
  cases hresult with
  | refused hnone =>
    refine ⟨fun _ => rfl, fun hsource => ?_, fun hwhole => iff_of_true hwhole (.inl hnone)⟩
    rw [hnone] at hsource
    cases hsource
  | stopped hsource hfault hcatalog hlayouts =>
    have hfirst : ∀ t ∈ (w.catalog.tablesOf id).take (w.warehouse.faultIn - 1),
        t ∈ w.catalog.tables := fun t ht => List.mem_of_mem_filter (List.mem_of_mem_take ht)
    have hsome : ¬w.catalog.source? id = none := Option.isSome_iff_ne_none.1 hsource
    refine ⟨fun hnone => absurd hnone hsome, fun _ => ⟨?_, fun t ht => ?_⟩, fun hwhole => ?_⟩
    · rw [if_pos hfault, ← hcatalog]
    · exact hdescribed.hasTable_without hfirst hlayouts (hcatalog ▸ ht)
    · refine (hdescribed.whole_without hfirst hcatalog hlayouts hwhole).trans ?_
      rw [List.take_eq_nil_iff, ← List.length_eq_zero_iff, or_iff_right hsome]
      omega
  | done hsource hfault hcatalog hlayouts =>
    have hsome : ¬w.catalog.source? id = none := Option.isSome_iff_ne_none.1 hsource
    refine ⟨fun hnone => absurd hnone hsome, fun _ => ⟨?_, fun t ht => ?_⟩, fun hwhole => ?_⟩
    · rw [if_neg hfault, hcatalog]
      exact Prod.ext (Catalog.deleteSource_ok hsource).symm rfl
    · obtain ⟨-, hother, hsame⟩ := hdescribed.hasTable_removed hsource hcatalog hlayouts ht
      exact hsame.trans (and_iff_left fun hmem => hother (List.mem_of_mem_take hmem)).symm
    · refine iff_of_true (fun t ht => ?_) (.inr (by omega))
      obtain ⟨hold, -, hsame⟩ := hdescribed.hasTable_removed hsource hcatalog hlayouts ht
      exact hsame.2 (hwhole t hold)

/-! ## A source with two tables -/

/-- The world with one data source. -/
def salesWorld : World :=
  (Action.onCatalog (fun c now => c.createSource now "sales" none "CSV") freshWorld).2

/-- The creation of a table of the source without rows. -/
def emptyTable (name : String) : ManagerCall := .load (.create (recordId 1) name wordSchema [])

/-- Creates the physical table and then the record. -/
def createEmpty (name : String) : Action DataTable := do
  let physical := physicalNameFor (recordId 1) name
  Action.onWarehouse fun w => w.apply (.create physical wordSchema.columns [])
  Action.onCatalog fun c now => c.putTable now (recordId 1) name physical wordSchema 0

theorem emptyTable_run {name : String} {w : World}
    (hnone : w.catalog.table? (recordId 1) name = none) :
    (emptyTable name).run .standard w
      = ((createEmpty name w).1.map some, (createEmpty name w).2) := by
  have hload : (Load.create (recordId 1) name wordSchema []).run .standard w
      = createEmpty name w := by
    refine (createTable_eq_loadNew hnone (by decide)).trans ?_
    rw [Action.loadNew_nil]
    rfl
  rw [emptyTable, ManagerCall.run, hload]

/-- The world after the first table was created. -/
def oneTable : World := (createEmpty "a" salesWorld).2

/-- The world after the second table was created. -/
def twoTables : World := (createEmpty "b" oneTable).2

/-- The world with two tables and a failure of the second statement. -/
def brittleTables : World :=
  { twoTables with warehouse := { twoTables.warehouse with faultIn := 2 } }

/-- The record of the table `a`. -/
def tableA : DataTable :=
  ⟨recordId 2, recordId 1, "a", "ds_00000001_a", wordSchema, 0, default, default⟩

/-- The record of the table `b`. -/
def tableB : DataTable :=
  ⟨recordId 3, recordId 1, "b", "ds_00000001_b", wordSchema, 0, default, default⟩

/-- The two creations. -/
def creations : List ManagerEvent :=
  [⟨salesWorld, emptyTable "a", .ok (some tableA), oneTable⟩,
    ⟨oneTable, emptyTable "b", .ok (some tableB), twoTables⟩]

theorem creations_run : TableRun .standard freshWorld creations brittleTables := by
  have hfirst : (emptyTable "a").run .standard salesWorld = (.ok (some tableA), oneTable) :=
    emptyTable_run rfl
  have hsecond : (emptyTable "b").run .standard oneTable = (.ok (some tableB), twoTables) :=
    emptyTable_run rfl
  have hsource : TableRun .standard freshWorld [] salesWorld :=
    .aside .start rfl (Nat.zero_le _) rfl
  have hone := hsource.call (emptyTable "a")
  rw [hfirst] at hone
  have htwo := hone.call (emptyTable "b")
  rw [hsecond] at htwo
  exact htwo.aside rfl (Nat.le_refl _) rfl

theorem brittleTables_tables : brittleTables.catalog.tables = [tableA, tableB] := rfl

theorem brittleTables_whole : brittleTables.Whole := by
  rw [World.Whole, brittleTables_tables]
  exact List.forall_mem_cons.2 ⟨rfl, List.forall_mem_singleton.2 rfl⟩

theorem brittleTables_dropped :
    freshWorld.catalog.tables = [] ∧ (∀ physical, freshWorld.layouts physical = none)
      ∧ TableRun .standard freshWorld creations brittleTables ∧ brittleTables.Whole
      ∧ (brittleTables.catalog.source? (recordId 1)).isSome
      ∧ (Action.dropSource (recordId 1) brittleTables).1 = .error .simulated
      ∧ (Action.dropSource (recordId 1) brittleTables).2.catalog = brittleTables.catalog
      ∧ ¬(Action.dropSource (recordId 1) brittleTables).2.Whole := by
  have hclean : ∀ physical, freshWorld.layouts physical = none := fun _ => rfl
  obtain ⟨-, hdrop, hwhole⟩ := dropSource_whole_iff rfl hclean creations_run (recordId 1)
  have hresult := (hdrop rfl).1
  refine ⟨rfl, hclean, creations_run, brittleTables_whole, rfl, congrArg Prod.fst hresult,
    congrArg Prod.snd hresult, fun hafter => ?_⟩
  rcases (hwhole brittleTables_whole).1 hafter with hnone | hfault
  · cases hnone
  · revert hfault
    decide

/-- The removal fails on the table `b`; the record of the table `a` stays and its table is gone. -/
theorem tableA_dangling :
    TableRun .standard freshWorld creations brittleTables ∧ brittleTables.Whole
      ∧ tableA ∈ (Action.dropSource (recordId 1) brittleTables).2.catalog.tables
      ∧ ¬(Action.dropSource (recordId 1) brittleTables).2.HasTable tableA :=
  ⟨creations_run, brittleTables_whole, List.mem_cons_self, Bool.false_ne_true⟩

end MetricLayer
