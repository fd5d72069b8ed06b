import MetricLayer.Proofs.Cache.Key
import MetricLayer.Proofs.Service.Unaffected
import MetricLayer.Proofs.Sql.FilterOrder
import MetricLayer.Proofs.Sql.MetricText

/-!
# What running a metric depends on

`World.Asks` says which query a metric has in a world: that of its compiled form against the oldest
table of its source.  Running the metric is sending this query (`runMetric_of_asks`).

The rows that come back are those of a database whose answers are determined by the rows of the
tables that a query reads and do not depend on the order of fields in filters (`RowFunction`).  So a
change that leaves the metric alone leaves its rows alone (`Asks.answer_eq`), and two requests that
are equal up to the order of fields have the same rows (`Asks.reordered`).
-/

namespace MetricLayer

open MetricLayer.Action Sql

/-! ## Running a metric -/

/-- The metric `id` is on the source `s`, and the request has this query against the oldest table of
the source. -/
def World.Asks (w : World) (id s : String) (r : RunRequest) (sql : String) : Prop :=
  ∃ m t, w.catalog.metric? id = some m ∧ m.sourceId = some s ∧ s ≠ ""
    ∧ (w.catalog.tablesOf s).head? = some t
    ∧ m.compiled.query ⟨t.physicalName, r.filters, r.groupBy, r.dateField⟩ = .ok sql

namespace Action

variable {w : World} {id s sql : String} {r : RunRequest}

theorem findMetric_some {m : Metric} (h : w.catalog.metric? id = some m) :
    findMetric id w = (.ok m, w) := by
  unfold findMetric
  rw [bind_of_ok (rfl : catalog w = (.ok w.catalog, w)), h]
  rfl

theorem findMetric_none (h : w.catalog.metric? id = none) :
    findMetric id w = (.error (.metricNotFound id), w) := by
  unfold findMetric
  rw [bind_of_ok (rfl : catalog w = (.ok w.catalog, w)), h]
  rfl

theorem tableFor_some {sourceId : Option String} {t : DataTable} (subject : String)
    (hs : sourceId = some s) (hne : s ≠ "") (ht : (w.catalog.tablesOf s).head? = some t) :
    tableFor sourceId subject w = (.ok t, w) := by
  obtain ⟨rest, htables⟩ := List.head?_eq_some_iff.1 ht
  have hfilter : sourceId.filter (· ≠ "") = some s := by simp [hs, hne]
  unfold tableFor
  rw [hfilter]
  dsimp only
  rw [bind_of_ok (rfl : catalog w = (.ok w.catalog, w)), htables]
  rfl

theorem tableFor_cases (sourceId : Option String) (subject : String) (w : World) :
    (∃ failure, tableFor sourceId subject w = (.error failure, w))
    ∨ ∃ s t, sourceId = some s ∧ s ≠ "" ∧ (w.catalog.tablesOf s).head? = some t := by
  unfold tableFor
  cases hfilter : sourceId.filter (· ≠ "") with
  | none => exact .inl ⟨_, rfl⟩
  | some s =>
    obtain ⟨hs, hne⟩ := Option.filter_eq_some_iff.1 hfilter
    dsimp only
    rw [bind_of_ok (rfl : catalog w = (.ok w.catalog, w))]
    cases htables : w.catalog.tablesOf s with
    | nil => exact .inl ⟨_, rfl⟩
    | cons t rest => exact .inr ⟨s, t, hs, of_decide_eq_true hne, by rw [htables]; rfl⟩

theorem metricQuery_of_asks (h : w.Asks id s r sql) : metricQuery id r w = (.ok sql, w) := by
  obtain ⟨m, t, hmetric, hs, hne, ht, hquery⟩ := h
  unfold metricQuery
  rw [bind_of_ok (findMetric_some hmetric), bind_of_ok (tableFor_some _ hs hne ht), hquery]
  rfl

/-- Without a query there is a failure and nothing happens. -/
theorem metricQuery_cases (id : String) (r : RunRequest) (w : World) :
    (∃ failure, metricQuery id r w = (.error failure, w)) ∨ ∃ s sql, w.Asks id s r sql := by
  unfold metricQuery
  cases hmetric : w.catalog.metric? id with
  | none =>
    rw [bind_of_error (findMetric_none hmetric)]
    exact .inl ⟨_, rfl⟩
  | some m =>
    rw [bind_of_ok (findMetric_some hmetric)]
    rcases tableFor_cases m.sourceId s!"metric '{m.name}'" w with
      ⟨failure, hrun⟩ | ⟨s, t, hs, hne, ht⟩
    · rw [bind_of_error hrun]
      exact .inl ⟨failure, rfl⟩
    · rw [bind_of_ok (tableFor_some _ hs hne ht)]
      cases hquery : m.compiled.query ⟨t.physicalName, r.filters, r.groupBy, r.dateField⟩ with
      | error failure => exact .inl ⟨failure, rfl⟩
      | ok sql => exact .inr ⟨s, sql, m, t, hmetric, hs, hne, ht, hquery⟩

theorem runMetric_of_asks (h : w.Asks id s r sql) : runMetric id r w = query sql w := by
  unfold runMetric
  rw [bind_of_ok (metricQuery_of_asks h)]

/-- A metric that is run sends its query, or fails before anything is done. -/
theorem runMetric_cases (id : String) (r : RunRequest) (w : World) :
    (∃ failure, runMetric id r w = (.error failure, w))
    ∨ ∃ s sql, w.Asks id s r sql ∧ runMetric id r w = query sql w := by
  rcases metricQuery_cases id r w with ⟨failure, hrun⟩ | ⟨s, sql, hasks⟩
  · refine .inl ⟨failure, ?_⟩
    unfold runMetric
    rw [bind_of_error hrun]
  · exact .inr ⟨s, sql, hasks, runMetric_of_asks hasks⟩

end Action

/-- The request for a result as it is run. -/
def ResultRequest.run (q : ResultRequest) : RunRequest :=
  ⟨.object (q.filters.getD []), q.groupBy.getD [], q.dateField⟩

/-! ## The rows that come back -/

/-- A database whose answers are a function of the rows of its tables. -/
structure RowFunction where
  /-- The answer to a query over tables with these rows. -/
  answer : Contents → String → Outcome (List Fields)
  /-- An answer depends on the tables that the query reads, and on no others. -/
  answer_congr : ∀ {sql : String} {scans : List Scan} {contents contents' : Contents},
    Statements sql scans → (∀ scan ∈ scans, contents scan.table = contents' scan.table) →
      answer contents sql = answer contents' sql
  /-- The order of fields in the filters of a metric does not matter. -/
  answer_ordered : ∀ {c : Compiled} {r : MetricRequest} {filters : Value} {sql sql' : String},
    r.filters.ordered = filters.ordered → c.query r = .ok sql →
      c.query { r with filters } = .ok sql' →
        ∀ contents, answer contents sql = answer contents sql'

namespace World.Asks

variable {w w' : World} {id s sql : String} {r : RunRequest}

theorem sameFor (h : w.Asks id s r sql) (hsame : w.SameFor id s w') : w'.Asks id s r sql := by
  obtain ⟨m, t, hmetric, hs, hne, ht, hquery⟩ := h
  exact ⟨m, t, hsame.metric m hmetric hs, hs, hne, hsame.tables ▸ ht, hquery⟩

/-- Only the records decide which query a metric has. -/
theorem of_catalog (h : w.Asks id s r sql) (hcatalog : w'.catalog = w.catalog) :
    w'.Asks id s r sql := by
  unfold World.Asks
  rwa [hcatalog]

/-- What leaves the metric on its source alone leaves its rows alone. -/
theorem answer_eq (db : RowFunction) (h : w.Asks id s r sql) (hsame : w.SameFor id s w') :
    db.answer w'.contents sql = db.answer w.contents sql := by
  obtain ⟨m, t, -, -, -, ht, hquery⟩ := h
  obtain ⟨-, scans, hstatement, -, hscans⟩ := query_readsTable hquery
  refine db.answer_congr hstatement fun scan hscan => ?_
  rw [(hscans scan hscan).1]
  exact hsame.rows t (List.mem_of_head? ht)

/-- Filters in another order of fields have a query with the same rows. -/
theorem reordered (db : RowFunction) (h : w.Asks id s r sql) {filters : Value}
    (hr : r.filters.IsJson) (hfilters : filters.IsJson)
    (hordered : r.filters.ordered = filters.ordered) :
    ∃ sql', w.Asks id s { r with filters } sql'
      ∧ ∀ contents, db.answer contents sql = db.answer contents sql' := by
  obtain ⟨m, t, hmetric, hs, hne, ht, hquery⟩ := h
  have hsql : Succeeds (filterSql filters) :=
    filterSql_succeeds_of_ordered hr hfilters hordered (query_readsTable hquery).1
  obtain ⟨sql', hquery'⟩ := query_succeeds ⟨sql, hquery⟩ hsql
  exact ⟨sql', ⟨m, t, hmetric, hs, hne, ht, hquery'⟩,
    db.answer_ordered hordered hquery hquery'⟩

end World.Asks

end MetricLayer
