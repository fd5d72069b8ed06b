import MetricLayer.Access.Policy
import MetricLayer.Cache.Key
import MetricLayer.Cache.Statistics
import MetricLayer.Http.Body
import MetricLayer.Http.Payload
import MetricLayer.Http.Route
import MetricLayer.Service.Loading
import MetricLayer.Service.Metrics

/-!
# The service over HTTP

`App.handle` answers one request.  Callers see only the rows that the access policy gives them, so
their filters are part of the key under which the rows of a metric are cached.  Whatever changes rows
or removes a metric drops the cached rows that depend on it, once it has succeeded.
-/

namespace MetricLayer.Http

/-- The rows of the answer to a query. -/
abbrev Rows := List Fields

/-- The state of the service. -/
structure App where
  /-- The records and the rows. -/
  world : World
  /-- The cached rows of metrics. -/
  cache : ResultCache Seconds Rows
  /-- The time on the clock of the cache. -/
  clock : Seconds
  /-- Who may see which rows. -/
  policy : AccessPolicy

namespace App

variable {α : Type}

/-- How rows are loaded by the service. -/
def loading : LoadSettings := .standard

/-- Runs an action on the world. -/
def perform (a : App) (action : Action α) : Outcome α × App :=
  let (o, world) := action a.world
  (o, { a with world })

/-- The response to an outcome. -/
def respond (o : Outcome α) (success : α → Response) : Response :=
  match o with
  | .ok v => success v
  | .error failure => .ofFailure failure

/-- Runs an action and answers with its outcome. -/
def answer (a : App) (action : Action α) (success : α → Response) : Response × App :=
  let (o, a) := a.perform action
  (respond o success, a)

/-- Goes on with what was read from the request, if that has no issues. -/
def reading (a : App) (input : Checked α) (next : α → Response × App) : Response × App :=
  match input with
  | .valid v => next v
  | .invalid issues => (.rejected issues, a)

/-- Drops the cached rows with a tag when the request succeeded. -/
def dropping (tag : String) (success : Bool) (a : App) : App :=
  if success then { a with cache := (a.cache.invalidateTag tag).2 } else a

/-- Runs an action that makes the cached rows with a tag wrong. -/
def change (a : App) (tag : String) (action : Action α) (success : α → Response) :
    Response × App :=
  let (o, a) := a.perform action
  (respond o success, dropping tag (o matches .ok _) a)

/-- A response with rows, if they can be sent. -/
def sendRows (rows : Rows) (body : Value → Value) : Response :=
  match payloads? (rows.map .object) with
  | some items => .ok (body (.list items))
  | none => .broken

/-- A list of records as a response. -/
def sendList (items : List Value) : Response := .ok (.list items)

/-! ## Data sources and tables -/

/-- Goes on if the data source exists. -/
def existingSource (id : String) : Action DataSource := do
  match (← Action.catalog).source? id with
  | some s => return s
  | none => throw (.sourceNotFound id)

/-- Adds a data source. -/
def createSource (a : App) (r : Request) : Response × App :=
  a.reading (readBody r SourceBody.read) fun b =>
    a.answer (Action.onCatalog fun c now => c.createSource now b.name b.description b.kind.name)
      fun s => .created s.toValue

/-- Lists data sources. -/
def listSources (a : App) (r : Request) : Response × App :=
  a.reading (readParameter r "is_active" none (fun v => (Reader.truth v).map some)) fun isActive =>
    (sendList ((a.world.catalog.listSources isActive).map DataSource.toValue), a)

/-- Infers a schema. -/
def inferredSchema (a : App) (r : Request) : Response × App :=
  a.reading (readBody r readUpload) fun rows =>
    (respond (Schema.ofRows rows defaultSampleRows) fun s => .ok s.toValue, a)

/-- The schema of a body, or the schema of its rows. -/
def schemaOf (b : TableBody) : Outcome Schema :=
  match b.schema with
  | some s => .ok s
  | none => Schema.ofRows b.rows defaultSampleRows

/-- Creates a table with its first rows. -/
def createTable (a : App) (r : Request) (sourceId : String) : Response × App :=
  a.reading (readBody r TableBody.read) fun b =>
    let action : Action DataTable := do
      let _ ← existingSource sourceId
      let schema ← Action.ofOutcome (schemaOf b)
      Action.createTable loading sourceId b.name schema b.rows
    a.change sourceId action fun t => .created t.toValue

/-- Adds rows to a table. -/
def appendRows (a : App) (r : Request) (sourceId table : String) : Response × App :=
  a.reading (readBody r readUpload) fun rows =>
    a.change sourceId (Action.append loading sourceId table rows) fun t => .ok t.toValue

/-- The number of rows of a preview unless another is given. -/
def defaultPreview : Int := 100

/-- The greatest number of rows of a preview. -/
def greatestPreview : Int := 1000

/-- Shows rows of a table. -/
def preview (a : App) (r : Request) (sourceId table : String) : Response × App :=
  let limit := readParameter r "limit" defaultPreview (Reader.integerBetween 1 greatestPreview)
  let offset := readParameter r "offset" 0 (Reader.integerFrom 0)
  a.reading (Prod.mk <$> limit <*> offset) fun (limit, offset) =>
    a.answer (Action.preview sourceId table ⟨.int limit, .int offset, []⟩) fun rows =>
      sendRows rows fun items =>
        .object [("table_name", .text table), ("rows", items), ("limit", .int limit),
          ("offset", .int offset)]

/-! ## Metrics -/

/-- Defines a metric. -/
def createMetric (a : App) (r : Request) : Response × App :=
  a.reading (readBody r (MetricDefinition.read .request)) fun d =>
    a.answer (Action.createMetric d) fun m => .created m.toValue

/-- Lists metrics. -/
def listMetrics (a : App) (r : Request) : Response × App :=
  let filter : Checked Catalog.MetricFilter :=
    Catalog.MetricFilter.mk <$> readParameter r "data_source_id" none (fun v => (Reader.text v).map some)
      <*> readParameter r "type" none (fun v => (Reader.member MetricType.ofName? v).map some)
      <*> readParameter r "is_active" none (fun v => (Reader.truth v).map some)
  a.reading filter fun f => (sendList ((a.world.catalog.listMetrics f).map Metric.toValue), a)

/-- Compiles an expression on trial. -/
def validateExpression (a : App) (r : Request) : Response × App :=
  a.reading (readBody r readExpression) fun text => (.ok (diagnose text).toValue, a)

/-- The response with the rows of a metric. -/
def sendResult (id : String) (cached : Bool) (rows : Rows) : Response :=
  sendRows rows fun items =>
    .object [("metric_id", .text id), ("rows", items), ("row_count", .int rows.length),
      ("cached", .bool cached)]

/-- The filter tree of a caller together with the caller's restrictions. -/
def restricted (a : App) (r : Request) (filters : Fields) : Value :=
  .object (a.policy.mergedFilters r.userId? filters)

/-- The rows of a metric, together with the metric they belong to. -/
def freshRows (id : String) (request : Action.RunRequest) : Action (Rows × Metric) := do
  let rows ← Action.runMetric id request
  return (rows, ← Action.findMetric id)

/-- Runs a metric for a caller, or finds its rows in the cache. -/
def runMetric (a : App) (r : Request) (id : String) : Response × App :=
  a.reading (readBody r RunBody.read) fun b =>
    let filters := a.restricted r b.filters
    let key := cacheKey id filters (.list (b.groupBy.map .text)) (.ofText? b.dateField)
    match a.cache.get a.clock key with
    | (some rows, cache) => (sendResult id true rows, { a with cache })
    | (none, cache) =>
      match { a with cache }.perform (freshRows id ⟨filters, b.groupBy, b.dateField⟩) with
      | (.error failure, a) => (.ofFailure failure, a)
      | (.ok (rows, m), a) =>
        let cache := a.cache.put a.clock key rows [some m.id, m.sourceId]
        (sendResult id false rows, { a with cache })

/-! ## Queries over several metrics -/

/-- The response with the rows of a query. -/
def sendQuery (rows : Rows) : Response :=
  sendRows rows fun items => .object [("rows", items), ("row_count", .int rows.length)]

/-- Draws a chart for a caller. -/
def chart (a : App) (r : Request) : Response × App :=
  a.reading (readBody r ChartBody.read) fun b =>
    let limit := (b.limit.map Value.int).getD .null
    let request (metrics : List NamedMetric) : ChartRequest :=
      ⟨metrics, b.dimensions, a.restricted r b.filters, b.orderBy, limit⟩
    a.answer (Action.runChart b.sourceId b.metricIds request) sendQuery

/-- Draws a time series for a caller. -/
def timeSeries (a : App) (r : Request) : Response × App :=
  a.reading (readBody r SeriesBody.read) fun b =>
    let request (metrics : List NamedMetric) : SeriesRequest :=
      ⟨metrics, b.dateField, b.granularity, b.start, b.finish, a.restricted r b.filters⟩
    a.answer (Action.runSeries b.sourceId b.metricIds request) sendQuery

/-! ## The cache -/

/-- Forgets all cached rows. -/
def clearCache (a : App) : Response × App :=
  let (count, cache) := a.cache.clear
  (.ok (.object [("cleared", .int count)]), { a with cache })

/-- The statistics of the cache. -/
def cacheStatistics (a : App) : Response :=
  .ok (a.cache.statistics (.float a.cache.ttl.toFloat))

/-! ## Requests -/

/-- Serves an operation. -/
def serve (a : App) (r : Request) : Endpoint → Response × App
  | .createMetric => a.createMetric r
  | .listMetrics => a.listMetrics r
  | .validateExpression => a.validateExpression r
  | .showMetric id => a.answer (Action.findMetric id) fun m => .ok m.toValue
  | .deleteMetric id =>
    a.change id (Action.onCatalog fun c _ => c.deleteMetric id) fun _ => .noContent
  | .runMetric id => a.runMetric r id
  | .createSource => a.createSource r
  | .listSources => a.listSources r
  | .inferSchema => a.inferredSchema r
  | .showSource id => a.answer (existingSource id) fun s => .ok s.toValue
  | .deleteSource id => a.change id (Action.dropSource id) fun _ => .noContent
  | .listTables id =>
    a.answer (existingSource id) fun _ =>
      sendList ((a.world.catalog.tablesOf id).map DataTable.toValue)
  | .createTable id => a.createTable r id
  | .appendRows id table => a.appendRows r id table
  | .preview id table => a.preview r id table
  | .chart => a.chart r
  | .timeSeries => a.timeSeries r
  | .cacheStatistics => (a.cacheStatistics, a)
  | .clearCache => a.clearCache
  | .health => (.ok (.object [("status", .text "ok")]), a)

/-- The response without a body, if the method asks for none. -/
def headOnly (r : Request) (response : Response) : Response :=
  if r.method = "HEAD" then { response with body := none } else response

/-- Answers a request. -/
def handle (a : App) (r : Request) : Response × App :=
  match Route.find r.method r.path with
  | .endpoint e => a.serve r e
  | .otherMethods => (headOnly r .methodNotAllowed, a)
  | .nowhere => (headOnly r .notFound, a)

end App

end MetricLayer.Http
