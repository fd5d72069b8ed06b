import MetricLayer.Proofs.Service.Load
import MetricLayer.Service.Metrics

/-!
# Actions that only read

Finding records and querying the warehouse leave all records and all rows as they are
(`World.SameRecords`).
-/

namespace MetricLayer

variable {α : Type}

/-- The records and the rows are the same. -/
structure World.SameRecords (w w' : World) : Prop where
  catalog : w'.catalog = w.catalog
  contents : w'.contents = w.contents

instance : Std.Refl World.SameRecords := ⟨fun _ => ⟨rfl, rfl⟩⟩

instance : IsTrans World World.SameRecords where
  trans _ _ _ h h' := ⟨h'.catalog.trans h.catalog, h'.contents.trans h.contents⟩

namespace Action

open World (SameRecords)

theorem query_reads (sql : String) : Keeps SameRecords (query sql) :=
  fun w => ⟨rfl, Warehouse.contents_query w.warehouse sql []⟩

theorem ofOutcome_reads (o : Outcome α) : Keeps SameRecords (ofOutcome o) := .of_same fun _ => rfl

theorem catalog_reads : Keeps SameRecords catalog := .of_same fun _ => rfl

theorem findMetric_reads (id : String) : Keeps SameRecords (findMetric id) := by
  refine .bind catalog_reads fun c => ?_
  split
  · exact .pure _
  · exact .throw _

theorem findTable_reads (sourceId name : String) : Keeps SameRecords (findTable sourceId name) := by
  refine .bind catalog_reads fun c => ?_
  split
  · exact .pure _
  · exact .throw _

theorem tableFor_reads (sourceId : Option String) (subject : String) :
    Keeps SameRecords (tableFor sourceId subject) := by
  unfold tableFor
  split
  · exact .throw _
  · refine .bind catalog_reads fun c => ?_
    split
    · exact .throw _
    · exact .pure _

theorem metricQuery_reads (id : String) (r : RunRequest) : Keeps SameRecords (metricQuery id r) :=
  .bind (findMetric_reads id) fun _ => .bind (tableFor_reads _ _) fun _ => ofOutcome_reads _

theorem runMetric_reads (id : String) (r : RunRequest) : Keeps SameRecords (runMetric id r) :=
  .bind (metricQuery_reads id r) query_reads

theorem knownMetrics_reads (ids : List String) : Keeps SameRecords (knownMetrics ids) :=
  .bind catalog_reads fun _ => .pure _

theorem runChart_reads (sourceId : String) (ids : List String)
    (request : List NamedMetric → ChartRequest) : Keeps SameRecords (runChart sourceId ids request) :=
  .bind (tableFor_reads _ _) fun _ => .bind (knownMetrics_reads ids) fun _ =>
    .bind (ofOutcome_reads _) query_reads

theorem runSeries_reads (sourceId : String) (ids : List String)
    (request : List NamedMetric → SeriesRequest) :
    Keeps SameRecords (runSeries sourceId ids request) :=
  .bind (tableFor_reads _ _) fun _ => .bind (knownMetrics_reads ids) fun _ =>
    .bind (ofOutcome_reads _) query_reads

theorem preview_reads (sourceId name : String) (p : Page) :
    Keeps SameRecords (preview sourceId name p) :=
  .bind (findTable_reads _ _) fun _ => .bind (ofOutcome_reads _) query_reads

end Action

end MetricLayer
