import MetricLayer.Proofs.Http.ChangedRows
import MetricLayer.Proofs.Service.References

/-!
# References after a run of the service

Whatever requests create and delete, the source of every table exists, and so does the source of every
metric that refers to one by an id (`run_references`).  The exception is the blank id: it is looked up
nowhere when a metric is created, so the metric is stored with a reference to a source that never
existed (`CountedOrders.blankCount_dangles`).
-/

namespace MetricLayer.Http

open MetricLayer.Action

variable {α : Type} {blank : Metric → Prop}

namespace App

variable {a : App} {r : Request}

theorem world_change (a : App) (tag : String) (action : Action α) (success : α → Response) :
    (a.change tag action success).2.world = (action a.world).2 := by
  rw [change_eq, dropping]
  split <;> rfl

theorem reading_referenced (ha : a.world.catalog.Referenced blank) (input : Checked α)
    {next : α → Response × App} (h : ∀ v, (next v).2.world.catalog.Referenced blank) :
    (a.reading input next).2.world.catalog.Referenced blank := by
  cases input with
  | valid v => exact h v
  | invalid issues => exact ha

theorem answer_referenced (ha : a.world.catalog.Referenced blank) {action : Action α}
    (h : Action.Keeps World.SameRecords action) (success : α → Response) :
    (a.answer action success).2.world.catalog.Referenced blank := by
  show (action a.world).2.catalog.Referenced blank
  rwa [(h a.world).catalog]

theorem createMetric_referenced (ha : a.world.catalog.Referenced blank)
    (hblank : ∀ d m, readBody r (MetricDefinition.read .request) = .valid d →
      d.sourceId = some "" → (a.createMetric r).1 = .created m.toValue → blank m) :
    (a.createMetric r).2.world.catalog.Referenced blank := by
  unfold createMetric at hblank ⊢
  cases hbody : readBody r (MetricDefinition.read .request) with
  | invalid issues => exact ha
  | valid d =>
    rw [hbody] at hblank
    have hresult := createMetric_result d a.world
    show (Action.createMetric d a.world).2.catalog.Referenced blank
    generalize hrun : Action.createMetric d a.world = result at hresult ⊢
    cases hresult with
    | refused failure => exact ha
    | added _ _ hsource hworld =>
      subst hworld
      refine ha.withMetric hsource fun hid => hblank d _ rfl hid ?_
      show respond (Action.createMetric d a.world).1 _ = _
      rw [hrun]
      rfl

theorem dropSource_referenced (ha : a.world.catalog.Referenced blank) (id : String) :
    (dropSource id a.world).2.catalog.Referenced blank := by
  have hresult := dropSource_result id a.world
  generalize dropSource id a.world = result at hresult ⊢
  cases hresult with
  | refused failure => exact ha
  | brokenOff hcatalog => exact hcatalog ▸ ha
  | dropped _ hcatalog => exact hcatalog ▸ ha.deleteSource id

theorem createFor_referenced (hconsistent : a.world.catalog.Consistent)
    (ha : a.world.catalog.Referenced blank) (id : String) (b : TableBody) :
    (createFor id b a.world).2.catalog.Referenced blank := by
  rcases createFor_cases id b a.world with ⟨failure, h⟩ | ⟨hsource, schema, h⟩ <;> rw [h]
  · exact ha
  · exact ha.load (l := .create id b.name schema b.rows) (fun _ _ => hsource)
      (Load.run_result loading _ hconsistent)

/-- Every request that does not run a metric keeps references right. -/
theorem serve_referenced (hconsistent : a.world.catalog.Consistent)
    (ha : a.world.catalog.Referenced blank) {e : Endpoint} (he : ∀ id, e ≠ .runMetric id)
    (hblank : e = .createMetric → ∀ d m, readBody r (MetricDefinition.read .request) = .valid d →
      d.sourceId = some "" → (a.serve r e).1 = .created m.toValue → blank m) :
    (a.serve r e).2.world.catalog.Referenced blank := by
  cases e with
  | createMetric => exact createMetric_referenced ha (hblank rfl)
  | listMetrics => exact reading_referenced ha _ fun _ => ha
  | validateExpression => exact reading_referenced ha _ fun _ => ha
  | showMetric id => exact answer_referenced ha (findMetric_reads id) _
  | deleteMetric id =>
    rw [serve, world_change]
    exact ha.deleteMetric id
  | runMetric id => exact absurd rfl (he id)
  | createSource =>
    exact reading_referenced ha _ fun b => ha.createSource _ _ _ _
  | listSources => exact reading_referenced ha _ fun _ => ha
  | inferSchema => exact reading_referenced ha _ fun _ => ha
  | showSource id => exact answer_referenced ha (existingSource_reads id) _
  | deleteSource id =>
    rw [serve, world_change]
    exact dropSource_referenced ha id
  | listTables id => exact answer_referenced ha (existingSource_reads id) _
  | createTable id =>
    refine reading_referenced ha _ fun b => ?_
    rw [world_change]
    exact createFor_referenced hconsistent ha id b
  | appendRows id table =>
    refine reading_referenced ha _ fun rows => ?_
    rw [world_change]
    exact ha.load (l := .append id table rows) (fun _ h => by cases h)
      (Load.run_result loading (.append id table rows) hconsistent)
  | preview id table =>
    exact reading_referenced ha _ fun _ => answer_referenced ha (preview_reads _ _ _) _
  | chart => exact reading_referenced ha _ fun _ => answer_referenced ha (runChart_reads _ _ _) _
  | timeSeries =>
    exact reading_referenced ha _ fun _ => answer_referenced ha (runSeries_reads _ _ _) _
  | cacheStatistics => exact ha
  | clearCache => exact ha
  | health => exact ha

end App

/-! ## Runs -/

/-- The request defines a metric on the blank id, and this is the metric that it creates. -/
def Exchange.CreatesOnBlank (e : Exchange) (m : Metric) : Prop :=
  Route.find e.request.method e.request.path = .endpoint .createMetric
    ∧ (∃ d, readBody e.request (MetricDefinition.read .request) = .valid d
      ∧ d.sourceId = some "")
    ∧ e.response = .created m.toValue

/-- Every request keeps references right. -/
theorem Exchange.referenced {e : Exchange} (hconsistent : e.before.world.catalog.Consistent)
    (he : e.before.world.catalog.Referenced blank) (hblank : ∀ m, e.CreatesOnBlank m → blank m) :
    e.after.world.catalog.Referenced blank := by
  rcases e.handle_cases with ⟨id, b, hruns⟩ | hsame | ⟨endpoint, hrun, hroute, hhandle⟩
  · unfold after
    rwa [hruns.result.sameRecords.catalog]
  · rwa [hsame]
  · unfold after
    rw [hhandle]
    refine App.serve_referenced hconsistent he hrun ?_
    rintro rfl d m hbody hid hcreated
    refine hblank m ⟨hroute, ⟨d, hbody, hid⟩, ?_⟩
    unfold response
    rwa [hhandle]

theorem Run.referenced {start a : App} {log : List Exchange} (hrun : Run start log a)
    (hnew : start.IsNew) :
    a.world.catalog.Referenced fun m => ∃ e ∈ log, e.CreatesOnBlank m := by
  have hstart : start.world.catalog.Consistent := hnew.catalog ▸ Catalog.consistent_empty
  induction hrun with
  | start =>
    rw [hnew.catalog]
    exact .empty
  | @request log a hrun r ih =>
    have hbefore : a.world.catalog.Referenced
        fun m => ∃ e ∈ log ++ [(⟨a, r⟩ : Exchange)], e.CreatesOnBlank m :=
      ih.mono fun m ⟨e, he, hm⟩ => ⟨e, List.mem_append_left _ he, hm⟩
    have hconsistent : a.world.catalog.Consistent := (hrun.traced hstart).consistent
    have hafter := Exchange.referenced (e := ⟨a, r⟩) hconsistent hbefore
      fun m hm => ⟨⟨a, r⟩, List.mem_append_right _ (List.mem_singleton_self _), hm⟩
    dsimp only [Exchange.after] at hafter
    exact hafter
  | outside _ _ _ _ _ ih => exact ih

/-- After any requests since the start of the service, the source of every table exists, and a source
that a metric refers to exists unless its id is blank.  A metric refers to the blank id only if a
request asked for that when it created the metric. -/
theorem run_references {start a : App} {log : List Exchange} (hnew : start.IsNew)
    (hrun : Run start log a) :
    (∀ t ∈ a.world.catalog.tables, (a.world.catalog.source? t.sourceId).isSome)
    ∧ ∀ m ∈ a.world.catalog.metrics, ∀ s, m.sourceId = some s →
      ((a.world.catalog.source? s).isSome ↔ s ≠ "")
        ∧ (s = "" → ∃ e ∈ log, e.CreatesOnBlank m) := by
  have hreferenced := hrun.referenced hnew
  refine ⟨hreferenced.tables, fun m hm s hs => ⟨hreferenced.source?_isSome_iff hm hs, ?_⟩⟩
  rintro rfl
  exact hreferenced.blanks m hm hs

/-! ## A metric on the blank id -/

namespace CountedOrders

/-- Creates a metric on the blank id. -/
def createBlank : Request :=
  posted "/metrics" []
    [("name", .text "blank"), ("display_name", .text "Blank"), ("expression", .text "COUNT(region)"),
      ("data_source_id", .text "")]

/-- What `createBlank` asks for. -/
def blankDefinition : MetricDefinition :=
  ⟨⟨"blank", "Blank", none, defaultFormat, defaultPlaces, none, none⟩, none, "COUNT(region)",
    some ""⟩

/-- The metric that is created. -/
def blankCount : Metric :=
  ⟨recordId 4, blankDefinition.label, .simple, "COUNT(region)", .aggregation .count "region",
    some "", true, default⟩

/-- The world with the metric on the blank id. -/
def worldOfBlank : World :=
  { worldOfCount with catalog := worldOfCount.catalog.withMetric blankCount }

theorem createMetric_blank :
    Action.createMetric blankDefinition worldOfCount = (.ok blankCount, worldOfBlank) := by
  unfold Action.createMetric
  rw [show blankDefinition.expression = "COUNT(region)" from rfl, compiled_count]
  rfl

theorem handle_createBlank (policy : AccessPolicy) :
    (serviceIn worldOfCount policy).handle createBlank
      = (.created blankCount.toValue, serviceIn worldOfBlank policy) := by
  have hroute : Route.find createBlank.method createBlank.path = .endpoint .createMetric :=
    routes.2.2.1
  have hbody : readBody createBlank (MetricDefinition.read .request) = .valid blankDefinition := rfl
  unfold App.handle
  rw [hroute]
  show (serviceIn worldOfCount policy).createMetric createBlank = _
  unfold App.createMetric
  rw [hbody]
  unfold App.reading App.answer App.perform serviceIn
  dsimp only
  rw [createMetric_blank]
  rfl

/-- The requests that create the source, its table, the metric on it and the metric on the blank id. -/
def fourCreations : List Exchange :=
  creations .unrestricted ++ [⟨serviceIn worldOfCount .unrestricted, createBlank⟩]

theorem run_fourCreations :
    Run (started .unrestricted) fourCreations (serviceIn worldOfBlank .unrestricted) := by
  have hrun := (run_creations .unrestricted).request createBlank
  rwa [handle_createBlank] at hrun

theorem fourCreations_references :
    (started .unrestricted).IsNew
    ∧ Run (started .unrestricted) fourCreations (serviceIn worldOfBlank .unrestricted)
    ∧ (worldOfBlank.catalog.source? orders.sourceId).isSome
    ∧ ((worldOfBlank.catalog.source? salesId).isSome ↔ salesId ≠ "")
    ∧ ∃ e ∈ fourCreations, e.CreatesOnBlank blankCount := by
  have hnew : (started .unrestricted).IsNew := ⟨rfl, rfl, rfl⟩
  have hreferences := run_references hnew run_fourCreations
  refine ⟨hnew, run_fourCreations, hreferences.1 orders (List.mem_singleton_self _), ?_, ?_⟩
  · exact (hreferences.2 orderCount List.mem_cons_self salesId rfl).1
  · exact (hreferences.2 blankCount (List.mem_cons_of_mem _ (List.mem_singleton_self _)) "" rfl).2 rfl

/-- A metric on the blank id is stored, and there is no such source. -/
theorem blankCount_dangles :
    (started .unrestricted).IsNew
    ∧ Run (started .unrestricted) fourCreations (serviceIn worldOfBlank .unrestricted)
    ∧ blankCount ∈ worldOfBlank.catalog.metrics ∧ blankCount.sourceId = some ""
    ∧ worldOfBlank.catalog.source? "" = none :=
  ⟨⟨rfl, rfl, rfl⟩, run_fourCreations, List.mem_cons_of_mem _ (List.mem_singleton_self _), rfl,
    by decide⟩

end CountedOrders

end MetricLayer.Http
