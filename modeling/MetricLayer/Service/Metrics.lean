import MetricLayer.Metric.Compile
import MetricLayer.Service.World
import MetricLayer.Sql.Select

/-!
# Defining and running metrics

A metric is compiled when it is defined.  To run it, its query is written against the oldest table of
its data source.
-/

namespace MetricLayer.Action

/-- Compiles a definition and adds the metric. -/
def createMetric (d : MetricDefinition) : Action Metric := do
  let compiled ← ofOutcome (Failure.ofExpr (Compiled.ofText d.expression))
  let type := compiled.metricType
  if let some declared := d.type then
    if declared ≠ type then
      throw (.expression (.typeMismatch declared.name type.name d.expression))
  let c ← catalog
  if (c.metricNamed? d.label.name).isSome then throw (.metricExists d.label.name)
  if let some id := d.sourceId then
    if id ≠ "" ∧ (c.source? id).isNone then throw (.sourceNotFound id)
  onCatalog fun c now =>
    c.insertMetric ⟨c.nextId, d.label, type, d.expression, compiled, d.sourceId, true, now⟩

/-- The metric with an id. -/
def findMetric (id : String) : Action Metric := do
  match (← catalog).metric? id with
  | some m => return m
  | none => throw (.metricNotFound id)

/-- The oldest table of a source; `subject` is what needs it. -/
def tableFor (sourceId : Option String) (subject : String) : Action DataTable := do
  match sourceId.filter (· ≠ "") with
  | none => throw (.noSource subject)
  | some id =>
    match (← catalog).tablesOf id with
    | [] => throw (.noTable subject)
    | t :: _ => return t

/-- What a metric is run with. -/
structure RunRequest where
  /-- The filter tree. -/
  filters : Value
  /-- The columns to group by. -/
  groupBy : List String
  /-- The date column. -/
  dateField : Option String

/-- The query of a metric. -/
def metricQuery (id : String) (r : RunRequest) : Action String := do
  let m ← findMetric id
  let t ← tableFor m.sourceId s!"metric '{m.name}'"
  ofOutcome (m.compiled.query ⟨t.physicalName, r.filters, r.groupBy, r.dateField⟩)

/-- The rows of a metric. -/
def runMetric (id : String) (r : RunRequest) : Action (List Fields) := do
  query (← metricQuery id r)

/-- The metrics with these ids; ids of no metric are skipped. -/
def knownMetrics (ids : List String) : Action (List NamedMetric) := do
  let c ← catalog
  return (ids.filterMap c.metric?).map fun m => ⟨m.name, m.compiled⟩

/-- The oldest table of the source of a query over several metrics. -/
def sharedTable (sourceId : String) : Action DataTable :=
  tableFor (some sourceId) s!"data source '{sourceId}'"

/-- The rows of a chart; `request` completes the query for the metrics. -/
def runChart (sourceId : String) (metricIds : List String)
    (request : List NamedMetric → ChartRequest) : Action (List Fields) := do
  let t ← sharedTable sourceId
  let metrics ← knownMetrics metricIds
  query (← ofOutcome ((request metrics).render t.physicalName))

/-- The rows of a time series; `request` completes the query for the metrics. -/
def runSeries (sourceId : String) (metricIds : List String)
    (request : List NamedMetric → SeriesRequest) : Action (List Fields) := do
  let t ← sharedTable sourceId
  let metrics ← knownMetrics metricIds
  query (← ofOutcome ((request metrics).render t.physicalName))

end MetricLayer.Action
