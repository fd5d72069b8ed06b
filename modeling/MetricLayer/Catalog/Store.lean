import MetricLayer.Catalog.Record
import MetricLayer.Failure
import MetricLayer.Value.Display

/-!
# The catalog

The records in the order of their insertion.  Names of sources, names of tables within a source,
names of physical tables and names of metrics are unique.  An insertion that would break one of
these rules fails, but it has used up its id all the same.

An update gives its outcome together with the catalog after it; `now` is the time it happens at.
-/

namespace MetricLayer

/-- All records, oldest first. -/
structure Catalog where
  /-- The data sources. -/
  sources : List DataSource
  /-- The tables. -/
  tables : List DataTable
  /-- The metrics. -/
  metrics : List Metric
  /-- The number of ids given out. -/
  issued : Nat
  deriving Repr

namespace Catalog

/-- The catalog without records. -/
def empty : Catalog := ⟨[], [], [], 0⟩

/-- The id of the next record. -/
def nextId (c : Catalog) : String := recordId (c.issued + 1)

/-- The catalog after the next id was given out. -/
def issue (c : Catalog) : Catalog := { c with issued := c.issued + 1 }

/-! ## Data sources -/

/-- The source with an id. -/
def source? (c : Catalog) (id : String) : Option DataSource := c.sources.find? (·.id = id)

/-- The source with a name. -/
def sourceNamed? (c : Catalog) (name : String) : Option DataSource :=
  c.sources.find? (·.name = name)

/-- The sources, newest first, or only those in use or out of use. -/
def listSources (c : Catalog) (isActive : Option Bool) : List DataSource :=
  c.sources.reverse.filter fun s => isActive.all (· = s.isActive)

/-- Adds a source, unless its name exists: then the source of that name is the outcome.  The kind is
looked at only for a new source. -/
def createSource (c : Catalog) (now : Moment) (name : String) (description : Option String)
    (kindName : String) : Outcome DataSource × Catalog :=
  match c.sourceNamed? name with
  | some s => (.ok s, c)
  | none =>
    match SourceKind.ofName? kindName with
    | none => (.error .unknownMember, c)
    | some kind =>
      let s : DataSource := ⟨c.nextId, name, description, kind, true, now⟩
      (.ok s, { c.issue with sources := c.sources ++ [s] })

/-- A metric whose data source is gone. -/
def orphaned (m : Metric) : Metric := { m with sourceId := none }

/-- Removes a source with its tables; its metrics stay without a source. -/
def deleteSource (c : Catalog) (id : String) : Outcome Unit × Catalog :=
  match c.source? id with
  | none => (.error (.sourceNotFound id), c)
  | some _ =>
    (.ok (), { c with
      sources := c.sources.filter (·.id ≠ id)
      tables := c.tables.filter (·.sourceId ≠ id)
      metrics := c.metrics.map fun m => if m.sourceId = some id then orphaned m else m })

/-! ## Tables -/

/-- The table of a source with a name. -/
def table? (c : Catalog) (sourceId name : String) : Option DataTable :=
  c.tables.find? fun t => t.sourceId = sourceId && t.name = name

/-- The tables of a source, oldest first. -/
def tablesOf (c : Catalog) (sourceId : String) : List DataTable :=
  c.tables.filter (·.sourceId = sourceId)

/-- Puts a record in the place of the one with its id. -/
def replaceTable (c : Catalog) (t : DataTable) : Catalog :=
  { c with tables := c.tables.map fun u => if u.id = t.id then t else u }

/-- Adds a table. -/
def insertTable (c : Catalog) (now : Moment) (sourceId name physical : String) (schema : Schema)
    (rowCount : Int) : Outcome DataTable × Catalog :=
  if c.tables.any (·.physicalName = physical) then (.error .duplicateRecord, c.issue)
  else
    let t : DataTable := ⟨c.nextId, sourceId, name, physical, schema, rowCount, now, now⟩
    (.ok t, { c.issue with tables := c.tables ++ [t] })

/-- Adds a table, or gives the one with its name a new schema and row count.  The physical table of
an existing table stays what it was. -/
def putTable (c : Catalog) (now : Moment) (sourceId name physical : String) (schema : Schema)
    (rowCount : Int) : Outcome DataTable × Catalog :=
  match c.table? sourceId name with
  | none => c.insertTable now sourceId name physical schema rowCount
  | some t =>
    if t.schema = schema ∧ t.rowCount = rowCount then (.ok t, c)
    else
      let u := { t with schema, rowCount, updatedAt := now }
      (.ok u, c.replaceTable u)

/-- Adds to the row count of a table. -/
def addRows (c : Catalog) (now : Moment) (id : String) (count : Int) : Outcome DataTable × Catalog :=
  match c.tables.find? (·.id = id) with
  | none => (.error (.tableRecordNotFound id), c)
  | some t =>
    let u := { t with rowCount := t.rowCount + count, updatedAt := now }
    (.ok u, c.replaceTable u)

/-! ## Metrics -/

/-- The metric with an id. -/
def metric? (c : Catalog) (id : String) : Option Metric := c.metrics.find? (·.id = id)

/-- The metric with a name. -/
def metricNamed? (c : Catalog) (name : String) : Option Metric := c.metrics.find? (·.name = name)

/-- Which metrics are listed. -/
structure MetricFilter where
  /-- Only those of this source. -/
  sourceId : Option String
  /-- Only those of this type. -/
  type : Option MetricType
  /-- Only those in use, or out of use. -/
  isActive : Option Bool

/-- The filter lets a metric through. -/
def MetricFilter.admits (f : MetricFilter) (m : Metric) : Bool :=
  f.sourceId.all (some · = m.sourceId) && f.type.all (· = m.type) && f.isActive.all (· = m.isActive)

/-- The metrics that a filter lets through, newest first. -/
def listMetrics (c : Catalog) (f : MetricFilter) : List Metric := c.metrics.reverse.filter f.admits

/-- Adds a metric that was made for the next id. -/
def insertMetric (c : Catalog) (m : Metric) : Outcome Metric × Catalog :=
  if (c.metricNamed? m.name).isSome then (.error (.metricExists m.name), c.issue)
  else (.ok m, { c.issue with metrics := c.metrics ++ [m] })

/-- The columns of a metric that have to hold something. -/
def requiredColumns : List String := ["name", "display_name", "type", "expression"]

/-- The columns of a metric that have a default but cannot be null. -/
def presentColumns : List String := ["format", "decimal_places", "is_active"]

/-- The columns break a rule of the catalog: one that has to be there is not, or the name exists. -/
def breaksRules (c : Catalog) (columns : Fields) : Bool :=
  requiredColumns.any (fun name => (columns.get? name).all Value.isNull)
    || presentColumns.any (fun name => (columns.get? name).any Value.isNull)
    || (columns.get? "parsed_formula").isNone
    || match columns.get? "name" with
      | some (.text name) => (c.metricNamed? name).isSome
      | _ => false

/-- The metric that stored columns describe. -/
def readColumns (id : String) (now : Moment) (columns : Fields) : Outcome Metric :=
  let type? := match columns.get? "type" with
    | some (.text name) => MetricType.ofName? name
    | _ => none
  match type? with
  | none => .error .unknownMember
  | some type =>
    let compiled := Compiled.read ((columns.get? "parsed_formula").getD .null)
    match compiled.andThen fun compiled => Metric.ofColumns id type compiled now columns with
    | .valid m => .ok m
    | .invalid issues => .error (.invalidData issues)

/-- Adds a metric from its stored columns, without compiling its expression. -/
def storeMetric (c : Catalog) (now : Moment) (columns : Fields) : Outcome Metric × Catalog :=
  if c.breaksRules columns then
    (.error (.metricExists ((columns.get? "name").getD .null).plain), c.issue)
  else
    match readColumns c.nextId now columns with
    | .error failure => (.error failure, c.issue)
    | .ok m => (.ok m, { c.issue with metrics := c.metrics ++ [m] })

/-- Removes a metric. -/
def deleteMetric (c : Catalog) (id : String) : Outcome Unit × Catalog :=
  match c.metric? id with
  | none => (.error (.metricNotFound id), c)
  | some _ => (.ok (), { c with metrics := c.metrics.filter (·.id ≠ id) })

end Catalog

end MetricLayer
