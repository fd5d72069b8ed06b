import MetricLayer.Proofs.Service.Dangling
import MetricLayer.Proofs.Service.StoredMetrics

/-!
# What the removal of a data source takes with it

A removal that succeeds commits one change for each record of a table of the source, namely that its
physical table is dropped, and nothing else.  Then the source and these records go, and the metrics
on the source are left without one.  Everything else stays: the other sources, the other records
and their physical tables, and of the metrics all but the reference (`dropSource_exact`).
-/

namespace MetricLayer

/-- The metric without its source, if that is the source with the id. -/
def Metric.detached (id : String) (m : Metric) : Metric :=
  if m.sourceId = some id then { m with sourceId := none } else m

theorem Metric.sourceId_detached (id : String) (m : Metric) :
    (m.detached id).sourceId ≠ some id := by
  rw [detached]
  split
  · exact Option.some_ne_none id ∘ Eq.symm
  · next hother => exact hother

namespace Catalog

/-- The catalog without a source, without the records of its tables, and with its metrics left
without a source. -/
def without (c : Catalog) (id : String) : Catalog :=
  { c with
    sources := c.sources.filter (·.id ≠ id)
    tables := c.tables.filter (·.sourceId ≠ id)
    metrics := c.metrics.map (Metric.detached id) }

variable {c : Catalog} {id : String}

theorem deleteSource_eq (h : (c.source? id).isSome) : (c.deleteSource id).2 = c.without id := by
  obtain ⟨source, hsource⟩ := Option.isSome_iff_exists.1 h
  rw [deleteSource, hsource]
  rfl

theorem source?_without (c : Catalog) (id : String) : (c.without id).source? id = none := by
  refine List.find?_eq_none.2 fun s hs => ?_
  have hother := (List.mem_filter.1 hs).2
  simpa using hother

theorem tablesOf_without (c : Catalog) (id : String) : (c.without id).tablesOf id = [] := by
  refine List.filter_eq_nil_iff.2 fun t ht => ?_
  have hother := (List.mem_filter.1 ht).2
  simpa using hother

theorem metrics_without (c : Catalog) (id : String) :
    ∀ m ∈ (c.without id).metrics, m.sourceId ≠ some id := by
  intro m hm
  obtain ⟨u, -, rfl⟩ := List.mem_map.1 hm
  exact u.sourceId_detached id

/-- A record of another source has another physical table than the records of the source. -/
theorem Consistent.physicalName_notMem (h : c.Consistent) {t : DataTable}
    (ht : t ∈ (c.without id).tables) :
    t.physicalName ∉ (c.tablesOf id).map DataTable.physicalName := by
  intro hmem
  obtain ⟨u, hu, hsame⟩ := List.mem_map.1 hmem
  obtain ⟨hin, hother⟩ := List.mem_filter.1 ht
  obtain ⟨hown, hsource⟩ := List.mem_filter.1 hu
  rw [h.physicals u hown t hin hsame] at hsource
  simp [of_decide_eq_true hsource] at hother

end Catalog

namespace Action

/-- The changes that are committed are the removals of the physical tables, the last one first. -/
theorem dropTables_changes {tables : List DataTable} {w w' : World}
    (h : dropTables tables w = (.ok (), w')) :
    w'.warehouse.changes
      = (tables.map fun t => Change.drop t.physicalName).reverse ++ w.warehouse.changes := by
  induction tables generalizing w with
  | nil =>
    cases h
    rfl
  | cons t rest ih =>
    rw [dropTables] at h
    have hstep : onWarehouse (fun w => w.apply (.drop t.physicalName)) w
        = ((w.warehouse.apply (.drop t.physicalName)).1,
          { w with warehouse := (w.warehouse.apply (.drop t.physicalName)).2 }) := rfl
    rcases hdrop : w.warehouse.apply (.drop t.physicalName) with ⟨failure | ⟨⟩, warehouse⟩ <;>
      rw [hdrop] at hstep
    · rw [bind_of_error hstep] at h
      cases h
    · rw [bind_of_ok hstep] at h
      rw [ih h, List.map_cons, List.reverse_cons, List.append_assoc]
      exact congrArg _ (Warehouse.changes_made hdrop)

end Action

/-- The layouts after some tables were dropped one after another. -/
theorem Layouts.foldr_drops (layouts : Layouts) (tables : List DataTable) :
    (tables.map fun t => Change.drop t.physicalName).reverse.foldr Change.layouts layouts
      = layouts.without tables := by
  rw [List.foldr_reverse, List.foldl_map]
  induction tables generalizing layouts with
  | nil => exact (Layouts.without_nil layouts).symm
  | cons t rest ih => rw [List.foldl_cons, ih, Layouts.without_cons]

/-- The world after a data source was removed, and nothing else. -/
structure World.RemovedSource (id : String) (w w' : World) : Prop where
  /-- The source was there. -/
  known : (w.catalog.source? id).isSome
  /-- The changes committed are the removals of the physical tables of its records. -/
  changes : w'.warehouse.changes
    = ((w.catalog.tablesOf id).map fun t => Change.drop t.physicalName).reverse
      ++ w.warehouse.changes
  /-- The source and its records are gone, its metrics have lost it, and the rest is the same. -/
  catalog : w'.catalog = w.catalog.without id
  /-- The layouts without those of its tables. -/
  layouts : w'.layouts = w.layouts.without (w.catalog.tablesOf id)
  /-- The rows without those of its tables. -/
  contents : w'.contents = w.contents.without (w.catalog.tablesOf id)

/-- A removal that succeeds does nothing but remove the source. -/
theorem Action.dropSource_removed {id : String} {w w' : World}
    (h : dropSource id w = (.ok (), w')) : w.RemovedSource id w' := by
  rcases dropSource_cases id w with ⟨-, herror⟩ | ⟨source, hsource, hrun⟩
  · rw [herror] at h
    cases h
  · have hknown : (w.catalog.source? id).isSome := by
      rw [hsource]
      rfl
    rw [hrun] at h
    rcases dropTables_cases (w.catalog.tablesOf id) w with
      ⟨dropped, hdrop, hcatalog, hcontents⟩ | ⟨failure, dropped, hdrop, -, -, -⟩
    · rw [bind_of_ok hdrop, onCatalog_eq, hcatalog, Catalog.deleteSource_ok hknown,
        Catalog.deleteSource_eq hknown] at h
      cases h
      have hchanges := dropTables_changes hdrop
      refine ⟨hknown, hchanges, rfl, ?_, hcontents⟩
      show dropped.warehouse.layouts = _
      rw [Warehouse.layouts, hchanges, List.foldr_append]
      exact Layouts.foldr_drops _ _
    · rw [bind_of_error hdrop] at h
      cases h

/-- The removal of a data source is exact.  Without such a source it is refused and changes nothing.
When it succeeds, the physical tables it drops are those of the records of the source; the source
and its records go, its metrics lose the reference to it and nothing else, and every other record
and every other physical table is what it was, among them the tables of all the other records. -/
theorem dropSource_exact {w : World} (hw : w.Reachable) (id : String) :
    (w.catalog.source? id = none → Action.dropSource id w = (.error (.sourceNotFound id), w))
    ∧ ∀ w', Action.dropSource id w = (.ok (), w') →
      (w'.warehouse.changes
          = ((w.catalog.tablesOf id).map fun t => Change.drop t.physicalName).reverse
            ++ w.warehouse.changes
        ∧ ∀ physical, w'.layouts physical
            = (if physical ∈ (w.catalog.tablesOf id).map DataTable.physicalName then none
              else w.layouts physical)
          ∧ w'.contents physical
            = (if physical ∈ (w.catalog.tablesOf id).map DataTable.physicalName then none
              else w.contents physical))
      ∧ w'.catalog = { w.catalog with
          sources := w.catalog.sources.filter (·.id ≠ id)
          tables := w.catalog.tables.filter (·.sourceId ≠ id)
          metrics := w.catalog.metrics.map fun m =>
            if m.sourceId = some id then { m with sourceId := none } else m }
      ∧ (w'.catalog.source? id = none ∧ w'.catalog.tablesOf id = []
        ∧ ∀ m ∈ w'.catalog.metrics, m.sourceId ≠ some id)
      ∧ ∀ t ∈ w'.catalog.tables, w'.layouts t.physicalName = w.layouts t.physicalName
        ∧ w'.contents t.physicalName = w.contents t.physicalName := by
  constructor
  · intro hnone
    rcases Action.dropSource_cases id w with ⟨-, herror⟩ | ⟨source, hsource, -⟩
    · exact herror
    · rw [hnone] at hsource
      cases hsource
  · intro w' hrun
    have h := Action.dropSource_removed hrun
    have hphysical := fun physical =>
      And.intro (congrFun h.layouts physical) (congrFun h.contents physical)
    refine ⟨⟨h.changes, hphysical⟩, h.catalog, ?_, fun t ht => ?_⟩
    · rw [h.catalog]
      exact ⟨w.catalog.source?_without id, w.catalog.tablesOf_without id,
        w.catalog.metrics_without id⟩
    · rw [h.catalog] at ht
      have hother := hw.consistent.physicalName_notMem ht
      rw [h.layouts, h.contents, Layouts.without, Contents.without, if_neg hother, if_neg hother]
      exact ⟨rfl, rfl⟩

/-! ## A source among others -/

/-- The world with the source of two tables and with another source. -/
def twoSources : World :=
  (Action.onCatalog (fun c now => c.createSource now "stock" none "CSV") twoTables).2

/-- A metric on the source of the two tables. -/
def salesNet : Metric := { net with id := recordId 5 }

/-- The world with the metric. -/
def crowdedWorld : World :=
  (Action.onCatalog (fun c _ => c.insertMetric salesNet) twoSources).2

theorem emptyTable_steps {name : String} {w : World}
    (hnone : w.catalog.table? (recordId 1) name = none) : w.Steps (createEmpty name w).2 := by
  have hrun : ((emptyTable name).run .standard w).2 = (createEmpty name w).2 := by
    rw [emptyTable_run hnone]
  have hsteps : w.Steps ((emptyTable name).run .standard w).2 :=
    Action.createTable_steps .standard (recordId 1) name wordSchema [] w
  exact hrun ▸ hsteps

theorem crowdedWorld_reachable : crowdedWorld.Reachable := by
  have hsales : World.Steps freshWorld salesWorld :=
    Action.onCatalog_steps (fun _ _ => .createSource _ _ _) freshWorld
  have hone : World.Steps salesWorld (createEmpty "a" salesWorld).2 := emptyTable_steps rfl
  have htwo : World.Steps oneTable (createEmpty "b" oneTable).2 := emptyTable_steps rfl
  have hsources : World.Steps twoTables twoSources :=
    Action.onCatalog_steps (fun _ _ => .createSource _ _ _) twoTables
  have hmetric : World.Steps twoSources crowdedWorld :=
    Action.onCatalog_steps (fun _ _ => .insertMetric _) twoSources
  exact ⟨_, _, _, (((hsales.trans hone).trans htwo).trans hsources).trans hmetric⟩

theorem crowdedWorld_removed :
    crowdedWorld.Reachable
    ∧ (Action.dropSource (recordId 9) crowdedWorld).1 = .error (.sourceNotFound (recordId 9))
    ∧ (crowdedWorld.catalog.tablesOf (recordId 1)).map DataTable.physicalName
      = ["ds_00000001_a", "ds_00000001_b"]
    ∧ ∃ w', Action.dropSource (recordId 1) crowdedWorld = (.ok (), w')
      ∧ w'.warehouse.changes = [.drop "ds_00000001_b", .drop "ds_00000001_a"]
        ++ crowdedWorld.warehouse.changes
      ∧ w'.catalog.sources.map DataSource.name = ["stock"]
      ∧ w'.catalog.metrics = [{ salesNet with sourceId := none }] := by
  obtain ⟨hrefused, -⟩ := dropSource_exact crowdedWorld_reachable (recordId 9)
  obtain ⟨-, hremoved⟩ := dropSource_exact crowdedWorld_reachable (recordId 1)
  have hrun : Action.dropSource (recordId 1) crowdedWorld
      = (.ok (), (Action.dropSource (recordId 1) crowdedWorld).2) := rfl
  obtain ⟨⟨hchanges, -⟩, hcatalog, -, -⟩ := hremoved _ hrun
  refine ⟨crowdedWorld_reachable, congrArg Prod.fst (hrefused rfl), rfl, _, hrun, hchanges, ?_, ?_⟩
  · rw [hcatalog]
    rfl
  · rw [hcatalog]
    rfl

end MetricLayer
